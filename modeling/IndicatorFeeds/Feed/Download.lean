import IndicatorFeeds.Feed.Reader
import IndicatorFeeds.Program

namespace IndicatorFeeds.Feed

/-- Opens the feed in a reply, unless the reply says that the request has failed. -/
def openReply (feed : Metadata) (url : Url) (reply : Http.Reply) : Program Reader :=
  match reply.statusError? url with
  | some reason => Program.error (.fetch reason)
  | none => Program.ofExcept (Reader.ofLines feed (.ofReply reply))

def download (userAgent : String) (feed : Metadata) : Program Reader :=
  match Http.prepare .get feed.url [] with
  | .error reason => Program.error (.fetch reason)
  | .ok request => do
    match ← Program.request (.http { request with userAgent := some userAgent }) with
    | none => Program.error (.fetch (Http.unanswered request.url))
    | some reply => openReply feed request.url reply

end IndicatorFeeds.Feed

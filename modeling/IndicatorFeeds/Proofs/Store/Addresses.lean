import IndicatorFeeds.Job.Name
import IndicatorFeeds.Proofs.Store.Sent
import IndicatorFeeds.Proofs.Url.Names
import IndicatorFeeds.World

/-!
Where documents are on a search server. Whatever is asked of a document is asked at the server of the
base URL, below the directory of its path, under the names of the index and of the document as they are,
so that no two documents are asked for at the same place.
-/

namespace IndicatorFeeds

namespace Url

variable {u v w : Url} {names : List String}

/-- The port, if the URL names one. -/
def port? (u : Url) : Option UInt16 := u.authority.bind (·.port)

/-- The text of a path that ends in a slash, which is added if there is none. -/
def Path.directoryText (p : Path) : String :=
  if p.text.toList.getLast? = some '/' then p.text else p.text ++ "/"

/-- Both URLs name the same place on the same server; who asks and what is asked may differ. -/
structure SamePlace (u v : Url) : Prop where
  scheme : u.scheme = v.scheme
  host : u.host? = v.host?
  port : u.port? = v.port?
  path : u.path = v.path

theorem SamePlace.trans (first : u.SamePlace v) (second : v.SamePlace w) : u.SamePlace w :=
  ⟨first.scheme.trans second.scheme, first.host.trans second.host, first.port.trans second.port,
    first.path.trans second.path⟩

end Url

namespace Store

/-- What an index may be called: it is made of the characters of job names, and no dot. -/
structure IsIndexName (index : String) : Prop where
  some : index ≠ ""
  chars : ∀ c ∈ index.toList, Job.isNameChar c = true
  notDots : index ≠ "." ∧ index ≠ ".."

private theorem isUnreserved_of_isNameChar {c : Char} (named : Job.isNameChar c = true) :
    Url.isUnreserved c = true := by
  simp only [Job.isNameChar, Bool.or_eq_true, decide_eq_true_eq, or_assoc] at named
  apply Url.isUnreserved_iff.mpr
  tauto

theorem IsIndexName.isName {index : String} (named : IsIndexName index) :
    Url.IsName index.toList where
  some := fun none => named.some (String.toList_eq_nil_iff.mp none)
  unreserved := fun c member => isUnreserved_of_isNameChar (named.chars c member)
  notDot := fun same => named.notDots.1 (String.toList_inj.mp same)
  notDots := fun same => named.notDots.2 (String.toList_inj.mp same)

/-- The document that a call is about: the index and the id. -/
def Call.document? : Call → Option (String × String)
  | .getDocument index id | .putDocument index id _ _ | .deleteDocument index id _ => some (index, id)
  | _ => none

/-- A URL is that of a document below a base URL. -/
structure Located (base : Url) (index id : String) (u : Url) : Prop where
  scheme : u.scheme = base.scheme
  host : u.host? = base.host?
  port : u.port? = base.port?
  path : u.path.text = base.path.directoryText ++ index ++ "/_doc/" ++ id

variable {base u v : Url} {index id other id' : String}

/-- Documents at the same place are the same. -/
theorem Located.unique (located : Located base index id u) (located' : Located base other id' v)
    (indexed : IsIndexName index) (indexed' : IsIndexName other) (same : u.path.text = v.path.text) :
    index = other ∧ id = id' := by
  have whole {name : String} (named : IsIndexName name) :
      ∀ c ∈ name.toList, decide (c = '/') = false := fun c member => decide_eq_false fun same => by
    have slash := named.chars c member
    rw [same] at slash
    cases slash
  rw [located.path, located'.path] at same
  have same := congrArg String.toList same
  simp only [String.toList_append, List.append_assoc, List.append_cancel_left_eq] at same
  have parted : index.toList ++ '/' :: ("_doc/".toList ++ id.toList) =
      other.toList ++ '/' :: ("_doc/".toList ++ id'.toList) := same
  have parts := congrArg (Text.splitWhen fun c => decide (c = '/')) parted
  rw [Text.splitWhen_append_cons _ (whole indexed) rfl,
    Text.splitWhen_append_cons _ (whole indexed') rfl] at parts
  obtain rfl := String.toList_inj.mp (List.cons.inj parts).1
  have rest := (List.cons.inj (List.append_cancel_left parted)).2
  exact ⟨rfl, String.toList_inj.mp (List.append_cancel_left rest)⟩

end Store

end IndicatorFeeds

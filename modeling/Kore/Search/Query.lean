import Kore.Foundation.Text

/-! `FT.SEARCH`: the candidates of a query are scored, sorted and cut to a page. -/

namespace Kore.Search.QueryExecutor
open Foundation

/-- The candidates, in the order of a hash set that every call fills anew. -/
structure HashOrder (found : List Bytes) where
  order : List Bytes
  same : order.Perm found

variable {S : Type} [LT S] [DecidableLT S]

variable (vector text : Option (Bytes → Option S))

def scoredResults (candidates : List Bytes) : List (Bytes × Option S) :=
  match vector, text with
  | some vector, some text => candidates.map fun id => (id, (vector id).or (text id))
  | some vector, none => candidates.filterMap fun id => (vector id).map fun score => (id, some score)
  | none, some text => candidates.map fun id => (id, text id)
  | none, none => candidates.map fun id => (id, none)

/-- Higher scores first; those that cannot be compared count as equal. -/
def notBelow : Option S → Option S → Bool
  | some first, some second => !decide (first < second)
  | none, some _ => false
  | _, none => true

def sortByScore (results : List (Bytes × Option S)) : List (Bytes × Option S) :=
  if results.any (·.2.isSome) then results.mergeSort fun first second => notBelow first.2 second.2 else results

def execute (candidates : List Bytes) (offset limit : Nat) : List (Bytes × Option S) :=
  ((sortByScore (scoredResults vector text candidates)).drop offset).take limit

structure SearchResult (S : Type) where
  total : Nat
  documents : List (Bytes × Option S)

/-- `parse_simple` makes text filters only, and a candidate is an indexed document, which has its fields. -/
def search (text : Option (Bytes → Option S)) (candidates : List Bytes) (limit offset : Nat) : SearchResult S :=
  let documents := execute none text candidates offset limit
  ⟨documents.length, documents⟩

end Kore.Search.QueryExecutor

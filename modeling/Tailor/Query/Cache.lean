import Tailor.Query.Basic

/-! # The answers given so far

A cache holds the answer to every query that was answered, in the order in which they were first
answered. Answers are only ever added.
-/

namespace Tailor

/-- The queries answered so far with their answers, oldest first. -/
structure Cache where
  entries : List (Query × Answer)
deriving Repr, DecidableEq

namespace Cache

def empty : Cache := ⟨[]⟩

def get? (cache : Cache) (query : Query) : Option Answer := cache.entries.lookup query

def contains (cache : Cache) (query : Query) : Bool := (cache.get? query).isSome

/-- Records the answer to a query that has none yet. -/
def add (cache : Cache) (query : Query) (answer : Answer) : Cache :=
  ⟨cache.entries ++ [(query, answer)]⟩

@[simp] theorem get?_empty (query : Query) : empty.get? query = none := rfl

/-- An answer is added behind those that are there, so none of them changes. -/
theorem get?_add (cache : Cache) (query other : Query) (answer : Answer) :
    (cache.add query answer).get? other =
      (cache.get? other).or (if other = query then some answer else none) := by
  by_cases same : other = query
  · subst same
    simp [add, get?, List.lookup_append]
  · have differ : (other == query) = false := beq_false_of_ne same
    simp [add, get?, List.lookup_append, List.lookup_cons, same, differ]

end Cache
end Tailor

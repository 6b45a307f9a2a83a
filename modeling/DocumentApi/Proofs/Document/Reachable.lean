import DocumentApi.Proofs.Document.Path

/-!
# The values at the end of a path, depth first

A path is followed level by level: from all values that the first segments reach, one segment leads
to all values of the next level. Here the same values are collected from one value after another,
each as deep as the path goes:

* `Bson.reachable` is the recursion along the path, with one case for each kind of value that a
  segment can lead on from;
* `Document.resolve_eq_reachable` — both list the same values in the same order.

The levels have to be taken apart for that: a level below several values is made of the levels below
each of them (`Bson.follow_eq_flatMap`).
-/

namespace DocumentApi

namespace Bson

/-- The values that segments lead to from a value, depth first. In a document a segment leads to the
value under its name. In an array a segment that is a number leads to the item at this place and to
nothing else, and any other segment leads into every item that is a document. -/
def reachable : List String → Bson → List Bson
  | [], value => [value]
  | segment :: rest, .document fields =>
    match Fields.get? fields segment with
    | some value => reachable rest value
    | none => []
  | segment :: rest, .array items =>
    match index? segment with
    | some index =>
      match items[index]? with
      | some item => reachable rest item
      | none => []
    | none =>
      items.flatMap fun item =>
        match item with
        | .document fields =>
          match Fields.get? fields segment with
          | some value => reachable rest value
          | none => []
        | _ => []
  | _ :: _, _ => []

/-- One step, and then as deep as the path goes. -/
theorem reachable_cons (segment : String) (rest : List String) (value : Bson) :
    reachable (segment :: rest) value = (step segment value).flatMap (reachable rest) := by
  -- A value that is there is gone on from, and there is nothing to go on from otherwise.
  have hoption : ∀ found : Option Bson,
      (match found with
        | some value => reachable rest value
        | none => []) = found.toList.flatMap (reachable rest) := by
    intro found
    cases found with
    | none => rfl
    | some value => exact (List.flatMap_singleton _ value).symm
  -- By the kinds of values that a segment leads on from.
  cases value with
  | document fields =>
    rw [reachable, step]
    exact hoption (Fields.get? fields segment)
  | array items =>
    rw [reachable, step]
    -- A segment that is a number leads to one item, and any other one into all of them.
    cases index? segment with
    | some index => exact hoption items[index]?
    | none =>
      change items.flatMap _ = (items.filterMap (field? segment)).flatMap (reachable rest)
      rw [List.filterMap_eq_flatMap_toList, List.flatMap_assoc]
      congr 1
      funext item
      cases item with
      | document fields => exact hoption (Fields.get? fields segment)
      | _ => rfl
  | _ => rfl

/-- **Levels and depth.** Following a path from several values gives what is reachable from each of
them, one value after another. -/
theorem follow_eq_flatMap (values : List Bson) (path : List String) :
    follow values path = values.flatMap (reachable path) := by
  -- The induction is on the path, so that the values of the next level are any list.
  induction path generalizing values with
  | nil =>
    have hself : values.flatMap (reachable []) = values := List.flatMap_singleton' values
    exact hself.symm
  | cons segment rest ih =>
    calc follow values (segment :: rest)
        = follow (values.flatMap (step segment)) rest := rfl
      _ = (values.flatMap (step segment)).flatMap (reachable rest) := ih _
      _ = values.flatMap fun value => (step segment value).flatMap (reachable rest) :=
          List.flatMap_assoc
      _ = values.flatMap (reachable (segment :: rest)) := by
          congr 1
          funext value
          exact (reachable_cons segment rest value).symm

end Bson

namespace Document

/-- **Resolving a path** lists the reachable values depth first. -/
theorem resolve_eq_reachable (document : Document) (path : String) :
    document.resolve path = Bson.reachable (segments path) (.document document) := by
  rw [resolve_eq_follow, Bson.follow_eq_flatMap, List.flatMap_singleton]

end Document

end DocumentApi

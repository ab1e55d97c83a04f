import Bintrade.System.UnorderedMap

/-! The loop that writes a parameter map as `key=value` pairs joined by `&`. The
source has it three times: for the signed text, for query strings and for form
bodies. -/

namespace Bintrade.Core

open Bintrade.System

abbrev Params := UnorderedMap String String

def pairText (entry : String × String) : String := entry.1 ++ "=" ++ entry.2

/-- One turn of the loop. -/
def appendPair (text : String) (entry : String × String) : String :=
  (if text.isEmpty then text else text ++ "&") ++ entry.1 ++ "=" ++ entry.2

def joinPairs (entries : List (String × String)) : String := entries.foldl appendPair ""

/-- The pairs that come before another one, each with its separator. -/
def leadText (entries : List (String × String)) : List Char :=
  entries.flatMap fun entry => (pairText entry).toList ++ ['&']

/-- The pairs that come after another one, each with its separator. -/
def trailText (entries : List (String × String)) : List Char :=
  entries.flatMap fun entry => '&' :: (pairText entry).toList

theorem appendPair_empty (entry : String × String) : appendPair "" entry = pairText entry := by
  simp [appendPair, pairText]

theorem pairText_ne_empty (entry : String × String) : (pairText entry).toList ≠ [] := by
  simp [pairText]

theorem foldl_appendPair (text : String) (entries : List (String × String))
    (started : text.toList ≠ []) :
    (entries.foldl appendPair text).toList = text.toList ++ trailText entries := by
  induction entries generalizing text with
  | nil => simp [trailText]
  | cons entry rest ih =>
    have nonempty : text.isEmpty = false := by
      cases empty : text.isEmpty with
      | false => rfl
      | true =>
        rw [String.isEmpty_iff.mp empty] at started
        exact absurd rfl started
    have grown :
        (appendPair text entry).toList = text.toList ++ '&' :: (pairText entry).toList := by
      simp [appendPair, nonempty, pairText]
    rw [List.foldl_cons, ih _ (by rw [grown]; simp), grown]
    simp [trailText]

theorem joinPairs_cons (entry : String × String) (rest : List (String × String)) :
    (joinPairs (entry :: rest)).toList = (pairText entry).toList ++ trailText rest := by
  rw [joinPairs, List.foldl_cons, appendPair_empty, foldl_appendPair _ _ (pairText_ne_empty entry)]

theorem trailText_middle (before : List (String × String)) (entry : String × String)
    (after : List (String × String)) :
    trailText (before ++ entry :: after) =
      '&' :: (leadText before ++ (pairText entry).toList ++ trailText after) := by
  induction before with
  | nil => simp [trailText, leadText]
  | cons first rest ih =>
    calc trailText (first :: rest ++ entry :: after)
        = '&' :: (pairText first).toList ++ trailText (rest ++ entry :: after) := by
          simp [trailText]
      _ = '&' :: (leadText (first :: rest) ++ (pairText entry).toList ++ trailText after) := by
          rw [ih]
          simp [leadText]

/-- A pair stands between those before it and those after it. -/
theorem joinPairs_middle (before : List (String × String)) (entry : String × String)
    (after : List (String × String)) :
    (joinPairs (before ++ entry :: after)).toList =
      leadText before ++ (pairText entry).toList ++ trailText after := by
  cases before with
  | nil =>
    rw [List.nil_append, joinPairs_cons]
    rfl
  | cons first rest =>
    rw [List.cons_append, joinPairs_cons, trailText_middle]
    simp [leadText]

end Bintrade.Core

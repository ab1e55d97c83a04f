import Mathlib.Algebra.Ring.Nat
import Mathlib.Data.List.Infix

/-! `std::string` as code sees it that computes with positions: searches that answer with an
unsigned position or with `npos`, and `substr`. Differences of positions and calls of `substr`
are recorded. -/

namespace Bintrade.System

/-- Characters are single bytes. The length is less than `npos`, as `max_size()` is. -/
@[ext]
structure StdString where
  chars : List Char
  bounded : chars.length < 2 ^ 64 - 1

namespace StdString

/-- `std::size_t`. -/
abbrev Position := BitVec 64

def npos : Position := BitVec.allOnes 64

def size (text : StdString) : Position := BitVec.ofNat 64 text.chars.length

/-- Where a pattern occurs first. -/
def firstOccurrence (pattern : List Char) : List Char → Option Nat
  | [] => if pattern = [] then some 0 else none
  | first :: rest =>
    if pattern.isPrefixOf (first :: rest) then some 0
    else (firstOccurrence pattern rest).map (· + 1)

/-- `find` for a pattern that is not empty. -/
def find (text : StdString) (pattern : List Char) (start : Position) : Position :=
  match firstOccurrence pattern (text.chars.drop start.toNat) with
  | some offset => start + BitVec.ofNat 64 offset
  | none => npos

inductive Operation where
  | minus (left right : Position)
  | substr (size position : Position)

/-- The difference does not wrap around, and the position is not past the end. -/
def Operation.Sound : Operation → Prop
  | .minus left right => right ≤ left
  | .substr size position => position ≤ size

/-- A computation that returns or throws, with the operations it made. -/
structure Scan (ε α : Type) where
  outcome : Except ε α
  operations : List Operation

namespace Scan

variable {ε α β : Type}

/-- What follows an exception is not reached. -/
protected def bind (scan : Scan ε α) (next : α → Scan ε β) : Scan ε β :=
  match scan.outcome with
  | .ok value => ⟨(next value).outcome, scan.operations ++ (next value).operations⟩
  | .error error => ⟨.error error, scan.operations⟩

instance : Monad (Scan ε) where
  pure value := ⟨.ok value, []⟩
  bind := Scan.bind

/-- An exception is thrown. -/
def raise (error : ε) : Scan ε α := ⟨.error error, []⟩

/-- The scan ends in the given way, and all its operations are sound. -/
structure Ends (scan : Scan ε α) (outcome : Except ε α) : Prop where
  outcome : scan.outcome = outcome
  sound : ∀ operation ∈ scan.operations, operation.Sound

theorem ends_pure (value : α) : (pure value : Scan ε α).Ends (.ok value) where
  outcome := rfl
  sound _ member := by cases member

theorem ends_raise (error : ε) : (raise error : Scan ε α).Ends (.error error) where
  outcome := rfl
  sound _ member := by cases member

theorem Ends.bind {scan : Scan ε α} {next : α → Scan ε β} {value : α} {outcome : Except ε β}
    (first : scan.Ends (.ok value)) (second : (next value).Ends outcome) :
    (scan >>= next).Ends outcome := by
  have both : scan >>= next =
      ⟨(next value).outcome, scan.operations ++ (next value).operations⟩ := by
    change Scan.bind scan next = _
    rw [Scan.bind, first.outcome]
  rw [both]
  refine ⟨second.outcome, ?_⟩
  intro operation member
  rcases List.mem_append.mp member with early | late
  · exact first.sound operation early
  · exact second.sound operation late

theorem Ends.bind_error {scan : Scan ε α} {next : α → Scan ε β} {error : ε}
    (first : scan.Ends (.error error)) : (scan >>= next).Ends (.error error) := by
  have stopped : scan >>= next = ⟨.error error, scan.operations⟩ := by
    change Scan.bind scan next = _
    rw [Scan.bind, first.outcome]
  rw [stopped]
  exact ⟨rfl, first.sound⟩

end Scan

section Slices

variable {ε : Type} {text : StdString}

def slice (text : StdString) (position length : Nat) : StdString where
  chars := (text.chars.drop position).take length
  bounded := by
    have whole := text.bounded
    rw [List.length_take, List.length_drop]
    omega

/-- A difference of positions, of which the code makes a length. -/
def minus (left right : Position) : Scan ε Position where
  outcome := .ok (left - right)
  operations := [.minus left right]

/-- `substr`, which throws if its position is past the end and cuts its length at the end. -/
def substr (outOfRange : ε) (text : StdString) (position length : Position) :
    Scan ε StdString where
  outcome :=
    if position ≤ text.size then .ok (text.slice position.toNat length.toNat)
    else .error outOfRange
  operations := [.substr text.size position]

theorem toNat_size (text : StdString) : text.size.toNat = text.chars.length := by
  have bounded := text.bounded
  rw [size, BitVec.toNat_ofNat]
  omega

theorem ends_minus {left right : Position} (ordered : right ≤ left) :
    (minus left right : Scan ε Position).Ends (.ok (left - right)) where
  outcome := rfl
  sound operation member := by
    rw [List.mem_singleton.mp member]
    exact ordered

theorem ends_substr {position : Position} (within : position ≤ text.size) (outOfRange : ε)
    (length : Position) :
    (text.substr outOfRange position length).Ends
      (.ok (text.slice position.toNat length.toNat)) where
  outcome := if_pos within
  sound operation member := by
    rw [List.mem_singleton.mp member]
    exact within

end Slices

section Search

variable {pattern before rest chars : List Char}

theorem firstOccurrence_eq_none :
    firstOccurrence pattern chars = none ↔ ¬ pattern <:+: chars := by
  induction chars with
  | nil =>
    rw [firstOccurrence, List.infix_nil]
    by_cases empty : pattern = []
    · simp [empty]
    · simp [empty]
  | cons first rest ih =>
    rw [firstOccurrence, List.infix_cons_iff]
    by_cases here : pattern <+: first :: rest
    · simp [here]
    · simp [here, ih]

/-- No end of the pattern is a beginning of it, so that occurrences do not overlap. -/
def Unbordered (pattern : List Char) : Prop :=
  ∀ shift < pattern.length, 0 < shift → ¬ pattern.drop shift <+: pattern

instance (pattern : List Char) : Decidable (Unbordered pattern) :=
  inferInstanceAs (Decidable (∀ shift < pattern.length, 0 < shift → _))

theorem Unbordered.not_prefix (unbordered : Unbordered pattern) (nonempty : before ≠ [])
    (absent : ¬ pattern <:+: before) : ¬ pattern <+: before ++ (pattern ++ rest) := by
  intro here
  rcases List.prefix_or_prefix_of_prefix here (List.prefix_append before _) with inside | across
  · exact absent inside.isInfix
  · obtain ⟨tail, split⟩ := across
    by_cases partly : before.length < pattern.length
    · -- the rest of this occurrence would begin the occurrence that follows
      have begins : tail <+: pattern ++ rest := by
        apply (List.prefix_append_right_inj before).mp
        rw [split]
        exact here
      have border : tail <+: pattern := by
        refine List.prefix_of_prefix_length_le begins (List.prefix_append pattern rest) ?_
        rw [← split, List.length_append]
        omega
      have shifted : pattern.drop before.length = tail := by
        rw [← split, List.drop_left]
      refine unbordered before.length partly (List.length_pos_iff.mpr nonempty) ?_
      rw [shifted]
      exact border
    · have all : tail = [] := by
        have lengths := congrArg List.length split
        rw [List.length_append] at lengths
        exact List.eq_nil_of_length_eq_zero (by omega)
      rw [all, List.append_nil] at split
      rw [split] at absent
      exact absent List.infix_rfl

theorem firstOccurrence_of_prefix (here : pattern <+: chars) :
    firstOccurrence pattern chars = some 0 := by
  cases chars with
  | nil => exact if_pos (List.prefix_nil.mp here)
  | cons first rest => exact if_pos (List.isPrefixOf_iff_prefix.mpr here)

/-- A pattern that does not overlap itself is found behind a text without it. -/
theorem firstOccurrence_append (unbordered : Unbordered pattern) (absent : ¬ pattern <:+: before) :
    firstOccurrence pattern (before ++ (pattern ++ rest)) = some before.length := by
  induction before with
  | nil => exact firstOccurrence_of_prefix (List.prefix_append pattern rest)
  | cons first before ih =>
    have notHere : ¬ pattern <+: first :: before ++ (pattern ++ rest) :=
      unbordered.not_prefix (List.cons_ne_nil first before) absent
    have later := ih fun inside => absent (List.infix_cons_iff.mpr (.inr inside))
    rw [List.cons_append, firstOccurrence, if_neg, later]
    · rfl
    · intro here
      exact notHere (List.isPrefixOf_iff_prefix.mp here)

/-- A text with the pattern, split where it occurs first. -/
theorem exists_first (nonempty : pattern ≠ []) (present : pattern <:+: chars) :
    ∃ before rest, chars = before ++ (pattern ++ rest) ∧ ¬ pattern <:+: before := by
  induction chars with
  | nil => exact absurd (List.infix_nil.mp present) nonempty
  | cons first chars ih =>
    by_cases here : pattern <+: first :: chars
    · obtain ⟨rest, split⟩ := here
      refine ⟨[], rest, split.symm, ?_⟩
      intro empty
      exact nonempty (List.infix_nil.mp empty)
    · have later := (List.infix_cons_iff.mp present).resolve_left here
      obtain ⟨before, rest, split, absent⟩ := ih later
      refine ⟨first :: before, rest, by rw [split, List.cons_append], ?_⟩
      intro inside
      rcases List.infix_cons_iff.mp inside with starts | later
      · rw [split, ← List.cons_append] at here
        exact here (starts.trans (List.prefix_append _ _))
      · exact absent later

end Search

section Find

variable {text : StdString} {pattern before rest : List Char} {start : Position}

theorem ne_npos_of_le (text : StdString) {position : Position}
    (within : position.toNat ≤ text.chars.length) : position ≠ npos := by
  have bounded := text.bounded
  intro same
  have largest : position.toNat = 2 ^ 64 - 1 := by
    rw [same]
    rfl
  omega

/-- A position behind a part of the text does not wrap around. -/
theorem toNat_advance (text : StdString) {position step : Position}
    (within : position.toNat + step.toNat ≤ text.chars.length) :
    (position + step).toNat = position.toNat + step.toNat := by
  have bounded := text.bounded
  rw [BitVec.toNat_add]
  omega

/-- A search finds the first occurrence. -/
theorem find_of_split (unbordered : Unbordered pattern) (absent : ¬ pattern <:+: before)
    (split : text.chars.drop start.toNat = before ++ (pattern ++ rest)) :
    text.find pattern start ≠ npos ∧
      (text.find pattern start).toNat = start.toNat + before.length := by
  have bounded := text.bounded
  have nonempty : 0 < pattern.length := by
    apply List.length_pos_iff.mpr
    rintro rfl
    exact absent List.nil_infix
  have lengths := congrArg List.length split
  rw [List.length_drop, List.length_append, List.length_append] at lengths
  have position : (text.find pattern start).toNat = start.toNat + before.length := by
    rw [find, split, firstOccurrence_append unbordered absent]
    simp only [BitVec.toNat_add, BitVec.toNat_ofNat]
    omega
  refine ⟨text.ne_npos_of_le ?_, position⟩
  rw [position]
  omega

theorem find_of_absent (absent : ¬ pattern <:+: text.chars.drop start.toNat) :
    text.find pattern start = npos := by
  rw [find, firstOccurrence_eq_none.mpr absent]

theorem unbordered_singleton (char : Char) : Unbordered [char] := by
  intro shift inside positive
  rw [List.length_singleton] at inside
  omega

theorem find_char_of_split {char : Char} (absent : char ∉ before)
    (split : text.chars.drop start.toNat = before ++ char :: rest) :
    text.find [char] start ≠ npos ∧
      (text.find [char] start).toNat = start.toNat + before.length := by
  refine find_of_split (unbordered_singleton char) ?_ split
  rw [List.singleton_infix_iff]
  exact absent

theorem find_char_of_not_mem {char : Char} (absent : char ∉ text.chars.drop start.toNat) :
    text.find [char] start = npos := by
  apply find_of_absent
  rw [List.singleton_infix_iff]
  exact absent

/-- `substr` with the bounds of a part of the text. -/
theorem ends_substr_of_split {ε : Type} {position length : Position}
    (split : text.chars = before ++ (pattern ++ rest))
    (starts : position.toNat = before.length) (long : length.toNat = pattern.length)
    (outOfRange : ε) :
    ∃ found, (text.substr outOfRange position length).Ends (.ok found) ∧
      found.chars = pattern := by
  have within : position ≤ text.size := by
    rw [BitVec.le_def, toNat_size, starts, split, List.length_append]
    exact Nat.le_add_right _ _
  refine ⟨_, ends_substr within outOfRange length, ?_⟩
  change (text.chars.drop position.toNat).take length.toNat = pattern
  rw [split, starts, long, List.drop_left, List.take_left]

end Find

end StdString

end Bintrade.System

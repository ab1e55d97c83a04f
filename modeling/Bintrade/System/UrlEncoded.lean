import Mathlib.Algebra.Ring.Nat
import Mathlib.Data.List.Count
import Mathlib.Data.List.TakeWhile

/-! Reading `application/x-www-form-urlencoded` text: the pieces between `&`, each cut
at its first `=`, where `+` stands for a blank and `%` with two hexadecimal digits for a
byte. The characters of a text are its bytes. -/

namespace Bintrade.System

def hexValue (digit : Char) : Option Nat :=
  if '0' ≤ digit ∧ digit ≤ '9' then some (digit.toNat - '0'.toNat)
  else if 'a' ≤ digit ∧ digit ≤ 'f' then some (digit.toNat - 'a'.toNat + 10)
  else if 'A' ≤ digit ∧ digit ≤ 'F' then some (digit.toNat - 'A'.toNat + 10)
  else none

def plusToBlank (character : Char) : Char := if character = '+' then ' ' else character

/-- A `%` without two hexadecimal digits stands for itself. -/
def unescape : List Char → List Char
  | [] => []
  | '%' :: high :: low :: rest =>
    match hexValue high, hexValue low with
    | some highValue, some lowValue => Char.ofNat (16 * highValue + lowValue) :: unescape rest
    | _, _ => '%' :: unescape (high :: low :: rest)
  | first :: rest => plusToBlank first :: unescape rest
termination_by structural text => text

def decodePiece (piece : List Char) : String × String :=
  (String.ofList (unescape (piece.takeWhile (· ≠ '='))),
    String.ofList (unescape (piece.dropWhile (· ≠ '=')).tail))

/-- Empty pieces are skipped. -/
def decodeForm (text : List Char) : List (String × String) :=
  ((text.splitOn '&').filter (· ≠ [])).map decodePiece

/-- Whether a `%` with two hexadecimal digits starts here. -/
def startsEscape : List Char → Bool
  | '%' :: high :: low :: _ => (hexValue high).isSome && (hexValue low).isSome
  | _ => false

def escapeFree : List Char → Bool
  | [] => true
  | first :: rest => !startsEscape (first :: rest) && escapeFree rest

/-- A text that is read as it is written. -/
def PlainText (text : String) : Prop :=
  '&' ∉ text.toList ∧ '+' ∉ text.toList ∧ escapeFree text.toList = true

instance (text : String) : Decidable (PlainText text) := inferInstanceAs (Decidable (_ ∧ _ ∧ _))

/-- An entry that is read back from `key=value`. -/
def Transparent (entry : String × String) : Prop :=
  '=' ∉ entry.1.toList ∧ PlainText entry.1 ∧ PlainText entry.2

instance (entry : String × String) : Decidable (Transparent entry) :=
  inferInstanceAs (Decidable (_ ∧ _ ∧ _))

section Unescape

variable {text : List Char}

theorem length_unescape_le (text : List Char) : (unescape text).length ≤ text.length := by
  fun_induction unescape text with
  | case1 => simp
  | case2 high low rest highValue lowValue _ _ ih =>
    simp only [List.length_cons]
    omega
  | case3 high low rest _ ih =>
    simp only [List.length_cons] at ih ⊢
    omega
  | case4 first rest _ ih =>
    simp only [List.length_cons]
    omega

theorem escapeFree_of_not_mem (absent : '%' ∉ text) : escapeFree text = true := by
  induction text with
  | nil => rfl
  | cons first rest ih =>
    have literal : startsEscape (first :: rest) = false := by
      unfold startsEscape
      split
      · rename_i same
        cases same
        exact absurd List.mem_cons_self absent
      · rfl
    rw [escapeFree, literal, ih fun member => absent (List.mem_cons_of_mem _ member)]
    rfl

/-- Nothing is shortened where there is no escape, and every escape shortens. -/
theorem escapeFree_iff_length (text : List Char) :
    escapeFree text = true ↔ text.length ≤ (unescape text).length := by
  fun_induction unescape text with
  | case1 => simp [escapeFree]
  | case2 high low rest highValue lowValue highRead lowRead ih =>
    have shorter := length_unescape_le rest
    refine iff_of_false ?_ ?_
    · simp [escapeFree, startsEscape, highRead, lowRead]
    · simp only [List.length_cons]
      omega
  | case3 high low rest unread ih =>
    have literal : startsEscape ('%' :: high :: low :: rest) = false := by
      rw [startsEscape]
      cases highRead : hexValue high with
      | none => rfl
      | some highValue =>
        cases lowRead : hexValue low with
        | none => rfl
        | some lowValue => exact (unread _ _ highRead lowRead).elim
    rw [escapeFree, literal]
    simpa using ih
  | case4 first rest other ih =>
    have literal : startsEscape (first :: rest) = false := by
      unfold startsEscape
      split
      · rename_i same
        cases same
        exact (other _ _ _ rfl rfl).elim
      · rfl
    rw [escapeFree, literal]
    simpa using ih

theorem unescape_of_escapeFree (free : escapeFree text = true) :
    unescape text = text.map plusToBlank := by
  fun_induction unescape text with
  | case1 => rfl
  | case2 high low rest highValue lowValue highRead lowRead ih =>
    simp [escapeFree, startsEscape, highRead, lowRead] at free
  | case3 high low rest unread ih =>
    rw [escapeFree, Bool.and_eq_true] at free
    rw [ih free.2]
    rfl
  | case4 first rest other ih =>
    rw [escapeFree, Bool.and_eq_true] at free
    rw [ih free.2]
    rfl

theorem map_plusToBlank (unplussed : '+' ∉ text) : text.map plusToBlank = text := by
  calc text.map plusToBlank = text.map id := by
        apply List.map_congr_left
        intro character member
        apply if_neg
        rintro rfl
        exact unplussed member
    _ = text := List.map_id text

theorem unescape_of_plainText {text : String} (plain : PlainText text) :
    unescape text.toList = text.toList := by
  rw [unescape_of_escapeFree plain.2.2, map_plusToBlank plain.2.1]

theorem mem_map_plusToBlank {character : Char} (printable : character ≠ ' ')
    (member : character ∈ text.map plusToBlank) : character ∈ text ∧ character ≠ '+' := by
  obtain ⟨original, present, rfl⟩ := List.mem_map.mp member
  unfold plusToBlank at printable ⊢
  split
  · rename_i plus
    exact absurd (if_pos plus) printable
  · exact ⟨present, by assumption⟩

theorem hexValue_plusToBlank (digit : Char) : hexValue (plusToBlank digit) = hexValue digit := by
  unfold plusToBlank
  split
  · rename_i plus
    rw [plus]
    rfl
  · rfl

theorem startsEscape_map_plusToBlank (text : List Char) :
    startsEscape (text.map plusToBlank) = startsEscape text := by
  match text with
  | [] => rfl
  | [first] => simp [startsEscape]
  | [first, high] => simp [startsEscape]
  | first :: high :: low :: rest =>
    by_cases percent : first = '%'
    · subst percent
      change ((hexValue (plusToBlank high)).isSome && (hexValue (plusToBlank low)).isSome) = _
      rw [hexValue_plusToBlank, hexValue_plusToBlank]
      rfl
    · have other : plusToBlank first ≠ '%' := by
        unfold plusToBlank
        split
        · decide
        · exact percent
      simp [startsEscape, percent, other]

theorem escapeFree_map_plusToBlank (free : escapeFree text = true) :
    escapeFree (text.map plusToBlank) = true := by
  induction text with
  | nil => rfl
  | cons first rest ih =>
    rw [escapeFree, Bool.and_eq_true] at free
    rw [List.map_cons, escapeFree, ← List.map_cons, startsEscape_map_plusToBlank, free.1, ih free.2]
    rfl

/-- A part of a piece that was not shortened is plain once it is read. -/
theorem plainText_unescape (unsplit : '&' ∉ text) (full : text.length ≤ (unescape text).length) :
    PlainText (String.ofList (unescape text)) := by
  have free := (escapeFree_iff_length text).mpr full
  rw [unescape_of_escapeFree free]
  refine ⟨?_, ?_, ?_⟩
  · rw [String.toList_ofList]
    exact fun member => unsplit (mem_map_plusToBlank (by decide) member).1
  · rw [String.toList_ofList]
    exact fun member => (mem_map_plusToBlank (by decide) member).2 rfl
  · rw [String.toList_ofList]
    exact escapeFree_map_plusToBlank free

end Unescape

section Pieces

variable {piece text : List Char}

def entrySize (entry : String × String) : Nat := entry.1.length + entry.2.length

/-- The number of characters in the keys and values of a form. -/
def formSize (entries : List (String × String)) : Nat := (entries.map entrySize).sum

@[simp]
theorem formSize_nil : formSize [] = 0 := rfl

@[simp]
theorem formSize_cons (entry : String × String) (entries : List (String × String)) :
    formSize (entry :: entries) = entrySize entry + formSize entries := by
  simp [formSize]

@[simp]
theorem formSize_append (first second : List (String × String)) :
    formSize (first ++ second) = formSize first + formSize second := by
  simp [formSize]

theorem formSize_perm {first second : List (String × String)} (same : first.Perm second) :
    formSize first = formSize second :=
  (same.map entrySize).sum_nat

/-- `key=value` as it is written. -/
def formPair (entry : String × String) : List Char := entry.1.toList ++ '=' :: entry.2.toList

theorem length_formPair (entry : String × String) :
    (formPair entry).length = entrySize entry + 1 := by
  simp only [formPair, entrySize, List.length_append, List.length_cons, String.length_toList]
  omega

/-- What the first `=` cuts a piece into. -/
theorem length_cut (piece : List Char) :
    (piece.takeWhile (· ≠ '=')).length + (piece.dropWhile (· ≠ '=')).tail.length +
      (if '=' ∈ piece then 1 else 0) = piece.length := by
  induction piece with
  | nil => rfl
  | cons first rest ih =>
    by_cases equals : first = '='
    · simp [equals]
    · have later : '=' ∈ first :: rest ↔ '=' ∈ rest := by
        simp [Ne.symm equals]
      simp only [ne_eq, equals, not_false_eq_true, decide_true, List.takeWhile_cons_of_pos,
        List.dropWhile_cons_of_pos, List.length_cons, later] at ih ⊢
      omega

theorem entrySize_decodePiece (piece : List Char) :
    entrySize (decodePiece piece) =
      (unescape (piece.takeWhile (· ≠ '='))).length +
        (unescape (piece.dropWhile (· ≠ '=')).tail).length := by
  simp [entrySize, decodePiece]

theorem entrySize_decodePiece_le (piece : List Char) :
    entrySize (decodePiece piece) + (if '=' ∈ piece then 1 else 0) ≤ piece.length := by
  have key := length_unescape_le (piece.takeWhile (· ≠ '='))
  have value := length_unescape_le (piece.dropWhile (· ≠ '=')).tail
  have cut := length_cut piece
  rw [entrySize_decodePiece]
  omega

/-- A piece that loses only its `=` is read as a transparent entry. -/
theorem transparent_decodePiece (unsplit : '&' ∉ piece)
    (full : piece.length ≤ entrySize (decodePiece piece) + if '=' ∈ piece then 1 else 0) :
    Transparent (decodePiece piece) := by
  have key := length_unescape_le (piece.takeWhile (· ≠ '='))
  have value := length_unescape_le (piece.dropWhile (· ≠ '=')).tail
  have cut := length_cut piece
  rw [entrySize_decodePiece] at full
  have keyFull : (piece.takeWhile (· ≠ '=')).length ≤
      (unescape (piece.takeWhile (· ≠ '='))).length := by
    omega
  have valueFull : (piece.dropWhile (· ≠ '=')).tail.length ≤
      (unescape (piece.dropWhile (· ≠ '=')).tail).length := by
    omega
  refine ⟨?_, plainText_unescape ?_ keyFull, plainText_unescape ?_ valueFull⟩
  · have free := (escapeFree_iff_length _).mpr keyFull
    simp only [decodePiece, String.toList_ofList, unescape_of_escapeFree free]
    intro member
    have kept := (mem_map_plusToBlank (by decide) member).1
    simpa using List.mem_takeWhile_imp kept
  · exact fun member => unsplit (List.takeWhile_subset _ member)
  · exact fun member => unsplit (List.dropWhile_subset _ (List.mem_of_mem_tail member))

theorem decodePiece_formPair {entry : String × String} (transparent : Transparent entry) :
    decodePiece (formPair entry) = entry := by
  obtain ⟨uncut, keyPlain, valuePlain⟩ := transparent
  have kept : ∀ character ∈ entry.1.toList, decide (character ≠ '=') = true := by
    intro character member
    rw [decide_eq_true_eq]
    rintro rfl
    exact uncut member
  have key : (formPair entry).takeWhile (· ≠ '=') = entry.1.toList := by
    rw [formPair, List.takeWhile_append_of_pos kept]
    simp
  have value : ((formPair entry).dropWhile (· ≠ '=')).tail = entry.2.toList := by
    rw [formPair, List.dropWhile_append_of_pos kept]
    simp
  rw [decodePiece, key, value, unescape_of_plainText keyPlain, unescape_of_plainText valuePlain,
    String.ofList_toList, String.ofList_toList]

end Pieces

section Forms

variable {text : List Char}

@[simp]
theorem decodeForm_nil : decodeForm [] = [] := rfl

theorem decodeForm_append (before after : List Char) :
    decodeForm (before ++ '&' :: after) = decodeForm before ++ decodeForm after := by
  simp only [decodeForm, List.splitOn_append_cons_self, List.filter_append, List.map_append]

theorem decodeForm_of_not_mem (unsplit : '&' ∉ text) (written : text ≠ []) :
    decodeForm text = [decodePiece text] := by
  simp [decodeForm, List.splitOn_eq_singleton unsplit, written]

/-- Every separator, and one `=` if there is any, is lost when a text is read. -/
theorem formSize_decodeForm_le (text : List Char) :
    formSize (decodeForm text) + text.count '&' + (if '=' ∈ text then 1 else 0) ≤
      text.length := by
  by_cases split : '&' ∈ text
  · obtain ⟨before, after, rfl⟩ := List.append_of_mem split
    have first := formSize_decodeForm_le before
    have second := formSize_decodeForm_le after
    have either : (if '=' ∈ before ++ '&' :: after then 1 else 0) ≤
        (if '=' ∈ before then 1 else 0) + if '=' ∈ after then 1 else 0 := by
      by_cases early : '=' ∈ before
      · simp [early]
      · simp [early]
    rw [decodeForm_append, formSize_append, List.count_append, List.count_cons_self,
      List.length_append, List.length_cons]
    omega
  · by_cases written : text = []
    · subst written
      simp
    · have piece := entrySize_decodePiece_le text
      rw [decodeForm_of_not_mem split written, List.count_eq_zero.mpr split]
      simpa using piece
termination_by text.length

theorem formSize_decodeForm_formPair_le (entry : String × String) :
    formSize (decodeForm (formPair entry)) ≤ entrySize entry := by
  have bound := formSize_decodeForm_le (formPair entry)
  rw [length_formPair, if_pos (by simp [formPair])] at bound
  omega

/-- An entry that loses nothing is read as transparent entries. -/
theorem transparent_of_full {entry decoded : String × String}
    (full : entrySize entry ≤ formSize (decodeForm (formPair entry)))
    (member : decoded ∈ decodeForm (formPair entry)) : Transparent decoded := by
  have bound := formSize_decodeForm_le (formPair entry)
  have cut : '=' ∈ formPair entry := by simp [formPair]
  rw [length_formPair, if_pos cut] at bound
  have unsplit : '&' ∉ formPair entry := List.count_eq_zero.mp (by omega)
  rw [decodeForm_of_not_mem unsplit (List.ne_nil_of_mem cut)] at full member
  rw [List.mem_singleton.mp member]
  apply transparent_decodePiece unsplit
  rw [length_formPair, if_pos cut]
  simpa using full

theorem decodeForm_formPair {entry : String × String} (transparent : Transparent entry) :
    decodeForm (formPair entry) = [entry] := by
  have cut : '=' ∈ formPair entry := by simp [formPair]
  have unsplit : '&' ∉ formPair entry := by
    simp [formPair, transparent.2.1.1, transparent.2.2.1]
  rw [decodeForm_of_not_mem unsplit (List.ne_nil_of_mem cut), decodePiece_formPair transparent]

variable {entries : List (String × String)}

theorem formSize_flatMap_le (entries : List (String × String)) :
    formSize (entries.flatMap fun entry => decodeForm (formPair entry)) ≤ formSize entries := by
  induction entries with
  | nil => simp
  | cons entry entries ih =>
    have first := formSize_decodeForm_formPair_le entry
    rw [List.flatMap_cons, formSize_append, formSize_cons]
    omega

/-- Entries that together lose nothing are read as transparent entries. -/
theorem transparent_of_flatMap_full
    (full : formSize entries ≤ formSize (entries.flatMap fun entry => decodeForm (formPair entry)))
    {decoded : String × String}
    (member : decoded ∈ entries.flatMap fun entry => decodeForm (formPair entry)) :
    Transparent decoded := by
  induction entries with
  | nil => cases member
  | cons entry entries ih =>
    have first := formSize_decodeForm_formPair_le entry
    have rest := formSize_flatMap_le entries
    rw [List.flatMap_cons, formSize_append, formSize_cons] at full
    rw [List.flatMap_cons] at member
    rcases List.mem_append.mp member with early | late
    · exact transparent_of_full (by omega) early
    · exact ih (by omega) late

theorem flatMap_decodeForm_eq (transparent : ∀ entry ∈ entries, Transparent entry) :
    (entries.flatMap fun entry => decodeForm (formPair entry)) = entries := by
  induction entries with
  | nil => rfl
  | cons entry entries ih =>
    rw [List.flatMap_cons, decodeForm_formPair (transparent entry List.mem_cons_self),
      ih fun other member => transparent other (List.mem_cons_of_mem _ member)]
    rfl

end Forms

section Cut

variable {shown : Char → Bool}

theorem length_takeWhile_lt {text : List Char} (cut : ¬ ∀ char ∈ text, shown char = true) :
    (text.takeWhile shown).length < text.length := by
  by_contra short
  exact cut (List.takeWhile_eq_self_iff.mp
    ((List.takeWhile_prefix shown).eq_of_length_le (Nat.le_of_not_lt short)))

theorem takeWhile_append_of_cut {text : List Char} (cut : ¬ ∀ char ∈ text, shown char = true)
    (rest : List Char) : (text ++ rest).takeWhile shown = text.takeWhile shown := by
  rw [List.takeWhile_append, if_neg (Nat.ne_of_lt (length_takeWhile_lt cut))]

/-- A pair that is cut off at one of its chars loses it. -/
theorem formSize_cut_lt {entry : String × String}
    (cut : ¬ ∀ char ∈ formPair entry, shown char = true) (equals : shown '=' = true) :
    formSize (decodeForm ((formPair entry).takeWhile shown)) < entrySize entry := by
  by_cases key : ∀ char ∈ entry.1.toList, shown char = true
  · have hidden : ¬ ∀ char ∈ entry.2.toList, shown char = true := by
      intro value
      apply cut
      intro char member
      rcases List.mem_append.mp member with early | late
      · exact key char early
      · rcases List.mem_cons.mp late with rfl | late
        · exact equals
        · exact value char late
    have shorter := length_takeWhile_lt hidden
    have kept : (formPair entry).takeWhile shown =
        formPair (entry.1, String.ofList (entry.2.toList.takeWhile shown)) := by
      rw [formPair, List.takeWhile_append_of_pos key, List.takeWhile_cons_of_pos equals, formPair,
        String.toList_ofList]
    have bound := formSize_decodeForm_formPair_le
      (entry.1, String.ofList (entry.2.toList.takeWhile shown))
    rw [← kept] at bound
    simp only [entrySize, String.length_ofList, String.length_toList] at bound shorter ⊢
    omega
  · have shorter := length_takeWhile_lt key
    have kept : (formPair entry).takeWhile shown = entry.1.toList.takeWhile shown :=
      takeWhile_append_of_cut key _
    have bound := formSize_decodeForm_le (entry.1.toList.takeWhile shown)
    rw [kept]
    simp only [entrySize, String.length_toList] at shorter ⊢
    omega

end Cut

end Bintrade.System

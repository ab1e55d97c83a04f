import Mathlib.Data.List.DropRight
import Mathlib.Data.List.TakeWhile
import Bintrade.System.Decimal

/-! HTTP/1.1 requests as text: how one is written, and how a server reads those of a
connection one after another. All delimiters are ASCII, and lengths count UTF-8 bytes. -/

namespace Bintrade.System.Http

structure RequestMessage where
  method : String
  target : String
  fields : List (String × String)
  body : String
  deriving DecidableEq

def lineEnd : List Char := ['\r', '\n']

def fieldLine (field : String × String) : List Char :=
  field.1.toList ++ ':' :: ' ' :: field.2.toList

def RequestMessage.requestLine (message : RequestMessage) : List Char :=
  message.method.toList ++ ' ' :: (message.target.toList ++ " HTTP/1.1".toList)

def RequestMessage.lines (message : RequestMessage) : List (List Char) :=
  message.requestLine :: message.fields.map fieldLine

def RequestMessage.render (message : RequestMessage) : List Char :=
  message.lines.flatMap (· ++ lineEnd) ++ (lineEnd ++ message.body.toList)

/-- The lines up to the first empty one, and the text after it. The first argument is the
part of a line that was read already. -/
def readHead : List Char → List Char → Option (List (List Char) × List Char)
  | line, '\r' :: '\n' :: rest =>
    if line.isEmpty then some ([], rest)
    else (readHead [] rest).map fun head => (line :: head.1, head.2)
  | line, first :: rest => readHead (line ++ [first]) rest
  | _, [] => none
termination_by structural _ text => text

/-- A character of a token, such as a method or the name of a field. -/
def isTokenChar (char : Char) : Bool :=
  char.isAlphanum || "!#$%&'*+-.^_`|~".toList.contains char

/-- Neither a blank nor a control character. -/
def isTargetChar (char : Char) : Bool := 32 < char.toNat && char.toNat ≠ 127

def isValueChar (char : Char) : Bool := char = '\t' || char = ' ' || isTargetChar char

def isBlank (char : Char) : Bool := char = ' ' || char = '\t'

def trimBlanks (text : List Char) : List Char := (text.dropWhile isBlank).rdropWhile isBlank

/-- The method and the target. -/
def readRequestLine (line : List Char) : Option (String × String) :=
  match line.dropWhile isTokenChar with
  | ' ' :: rest =>
    if (line.takeWhile isTokenChar).isEmpty || (rest.takeWhile isTargetChar).isEmpty then none
    else if rest.dropWhile isTargetChar = " HTTP/1.1".toList then
      some (String.ofList (line.takeWhile isTokenChar),
        String.ofList (rest.takeWhile isTargetChar))
    else none
  | _ => none

/-- A text up to its first line end. -/
def firstLine : List Char → List Char
  | '\r' :: '\n' :: _ => []
  | first :: rest => first :: firstLine rest
  | [] => []
termination_by structural text => text

/-- The target that a receiver finds in the request line at the start of a text. -/
def receivedTarget (text : List Char) : Option String :=
  (readRequestLine (firstLine text)).map Prod.snd

def readField (line : List Char) : Option (String × String) :=
  match line.dropWhile isTokenChar with
  | ':' :: rest =>
    if (line.takeWhile isTokenChar).isEmpty || !rest.all isValueChar then none
    else some (String.ofList (line.takeWhile isTokenChar), String.ofList (trimBlanks rest))
  | _ => none

def readFields : List (List Char) → Option (List (String × String))
  | [] => some []
  | line :: rest => do
    let field ← readField line
    let fields ← readFields rest
    pure (field :: fields)

/-- Names of fields are compared without regard to case. -/
def sameName (name other : String) : Bool :=
  other.toList.map Char.toLower = name.toList.map Char.toLower

/-- The length of the body in bytes. A request without a length has no body; a transfer
coding and repeated lengths are refused. -/
def bodyLength (fields : List (String × String)) : Option Nat :=
  if fields.any (fun field => sameName "Transfer-Encoding" field.1) then none
  else
    match fields.filter (fun field => sameName "Content-Length" field.1) with
    | [] => some 0
    | [field] => readNumber field.2
    | _ => none

/-- The characters that make up a number of bytes, and the text after them. -/
def takeBytes : Nat → List Char → Option (List Char × List Char)
  | 0, text => some ([], text)
  | _ + 1, [] => none
  | count + 1, first :: rest =>
    if first.utf8Size ≤ count + 1 then
      (takeBytes (count + 1 - first.utf8Size) rest).map fun taken => (first :: taken.1, taken.2)
    else none

/-- A request from the start of a text, and the text after it. -/
def readRequest (text : List Char) : Option (RequestMessage × List Char) := do
  let (lines, rest) ← readHead [] text
  match lines with
  | [] => none
  | requestLine :: fieldLines =>
    let (method, target) ← readRequestLine requestLine
    let fields ← readFields fieldLines
    let length ← bodyLength fields
    let (body, rest) ← takeBytes length rest
    pure (⟨method, target, fields, String.ofList body⟩, rest)

def readRequests : Nat → List Char → Option (List RequestMessage)
  | _, [] => some []
  | 0, _ :: _ => none
  | limit + 1, first :: rest => do
    let (message, more) ← readRequest (first :: rest)
    let messages ← readRequests limit more
    pure (message :: messages)

/-- All requests of a connection. Every request takes at least one character. -/
def readConnection (text : List Char) : Option (List RequestMessage) :=
  readRequests text.length text

def IsToken (text : String) : Prop :=
  text.toList ≠ [] ∧ ∀ char ∈ text.toList, isTokenChar char = true

/-- A text without blanks and control characters. -/
def Visible (text : String) : Prop := ∀ char ∈ text.toList, isTargetChar char = true

def IsTarget (text : String) : Prop := text.toList ≠ [] ∧ Visible text

def IsFieldValue (text : String) : Prop :=
  (∀ char ∈ text.toList, isValueChar char = true) ∧ trimBlanks text.toList = text.toList

instance (text : String) : Decidable (IsToken text) :=
  decidable_of_iff (text.toList ≠ [] ∧ text.toList.all isTokenChar = true)
    (and_congr_right' List.all_eq_true)

instance (text : String) : Decidable (Visible text) :=
  decidable_of_iff (text.toList.all isTargetChar = true) List.all_eq_true

instance (text : String) : Decidable (IsTarget text) := inferInstanceAs (Decidable (_ ∧ _))

instance (text : String) : Decidable (IsFieldValue text) :=
  decidable_of_iff (text.toList.all isValueChar = true ∧ trimBlanks text.toList = text.toList)
    (and_congr_left' List.all_eq_true)

structure RequestMessage.WellFormed (message : RequestMessage) : Prop where
  method : IsToken message.method
  target : IsTarget message.target
  fields : ∀ field ∈ message.fields, IsToken field.1 ∧ IsFieldValue field.2
  framed : bodyLength message.fields = some message.body.utf8ByteSize

section Head

variable {line text : List Char} {lines : List (List Char)}

theorem readHead_append (start : List Char) (whole : '\r' ∉ line) (text : List Char) :
    readHead start (line ++ (lineEnd ++ text)) =
      if (start ++ line).isEmpty then some ([], text)
      else (readHead [] text).map fun head => ((start ++ line) :: head.1, head.2) := by
  induction line generalizing start with
  | nil =>
    rw [List.append_nil]
    rfl
  | cons first rest ih =>
    have other : first ≠ '\r' := fun same => whole (same ▸ List.mem_cons_self)
    have further := ih (start ++ [first]) fun member => whole (List.mem_cons_of_mem _ member)
    rw [List.append_assoc, List.singleton_append] at further
    rw [← further, List.cons_append, readHead]
    intro _ same
    exact absurd same other

theorem readHead_lines (present : ∀ line ∈ lines, line ≠ []) (whole : ∀ line ∈ lines, '\r' ∉ line)
    (text : List Char) :
    readHead [] (lines.flatMap (· ++ lineEnd) ++ (lineEnd ++ text)) = some (lines, text) := by
  induction lines with
  | nil => rfl
  | cons line rest ih =>
    have further := ih (fun other member => present other (List.mem_cons_of_mem _ member))
      fun other member => whole other (List.mem_cons_of_mem _ member)
    have filled : line.isEmpty = false :=
      List.isEmpty_eq_false_iff.mpr (present line List.mem_cons_self)
    rw [List.flatMap_cons, List.append_assoc, List.append_assoc,
      readHead_append [] (whole line List.mem_cons_self), further, List.nil_append, filled]
    rfl

end Head

section Characters

theorem isTokenChar_ne {char separator : Char} (token : isTokenChar char = true)
    (separates : isTokenChar separator = false) : char ≠ separator := by
  rintro rfl
  rw [token] at separates
  cases separates

theorem isTargetChar_of_isDigit {char : Char} (digit : char.isDigit = true) :
    isTargetChar char = true := by
  simp only [Char.isDigit, Bool.and_eq_true, decide_eq_true_eq, ge_iff_le, UInt32.le_iff_toNat_le]
    at digit
  have bounds : 48 ≤ char.toNat ∧ char.toNat ≤ 57 := digit
  simp only [isTargetChar, Bool.and_eq_true, decide_eq_true_eq]
  omega

theorem visible_toString (number : Nat) : Visible (toString number) := by
  intro char member
  rw [show toString number = number.repr from rfl, Nat.toList_repr] at member
  exact isTargetChar_of_isDigit (Nat.isDigit_of_mem_toDigits (by decide) (by decide) member)

theorem isValueChar_of_isTargetChar {char : Char} (visible : isTargetChar char = true) :
    isValueChar char = true := by
  rw [isValueChar, visible]
  exact Bool.or_true _

theorem not_isBlank_of_isTargetChar {char : Char} (visible : isTargetChar char = true) :
    isBlank char = false := by
  cases blank : isBlank char with
  | false => rfl
  | true =>
    rw [isBlank, Bool.or_eq_true, decide_eq_true_eq, decide_eq_true_eq] at blank
    rcases blank with rfl | rfl <;> cases visible

theorem return_not_mem_of_token {text : String} (token : IsToken text) : '\r' ∉ text.toList :=
  fun member => isTokenChar_ne (token.2 _ member) (by decide) rfl

theorem return_not_mem_of_target {text : String} (target : IsTarget text) : '\r' ∉ text.toList := by
  intro member
  have visible := target.2 _ member
  revert visible
  decide

theorem return_not_mem_of_value {text : String} (value : IsFieldValue text) :
    '\r' ∉ text.toList := by
  intro member
  have allowed := value.1 _ member
  revert allowed
  decide

theorem takeWhile_token {text : String} (token : IsToken text) {separator : Char}
    (separates : isTokenChar separator = false) (rest : List Char) :
    (text.toList ++ separator :: rest).takeWhile isTokenChar = text.toList := by
  rw [List.takeWhile_append_of_pos token.2, List.takeWhile_cons_of_neg (by simp [separates]),
    List.append_nil]

theorem dropWhile_token {text : String} (token : IsToken text) {separator : Char}
    (separates : isTokenChar separator = false) (rest : List Char) :
    (text.toList ++ separator :: rest).dropWhile isTokenChar = separator :: rest := by
  rw [List.dropWhile_append_of_pos token.2, List.dropWhile_cons_of_neg (by simp [separates])]

theorem isToken_takeWhile {line : List Char} (present : (line.takeWhile isTokenChar) ≠ []) :
    IsToken (String.ofList (line.takeWhile isTokenChar)) := by
  unfold IsToken
  rw [String.toList_ofList]
  exact ⟨present, fun _ => List.mem_takeWhile_imp⟩

theorem isTarget_takeWhile {line : List Char} (present : (line.takeWhile isTargetChar) ≠ []) :
    IsTarget (String.ofList (line.takeWhile isTargetChar)) := by
  unfold IsTarget Visible
  rw [String.toList_ofList]
  exact ⟨present, fun _ => List.mem_takeWhile_imp⟩

end Characters

section Blanks

variable {text : List Char}

theorem mem_of_mem_trimBlanks {char : Char} (member : char ∈ trimBlanks text) : char ∈ text :=
  (List.dropWhile_suffix _).mem ((List.rdropWhile_prefix _ _).mem member)

theorem trimBlanks_blank_cons (text : List Char) : trimBlanks (' ' :: text) = trimBlanks text :=
  rfl

/-- What is left at the front is the front of what `dropWhile` left. -/
theorem dropWhile_trimBlanks (text : List Char) :
    (trimBlanks text).dropWhile isBlank = trimBlanks text := by
  obtain ⟨dropped, whole⟩ := List.rdropWhile_prefix isBlank (text.dropWhile isBlank)
  cases kept : trimBlanks text with
  | nil => rfl
  | cons first rest =>
    have front := List.head?_dropWhile_not isBlank text
    rw [← whole, ← trimBlanks, kept] at front
    exact List.dropWhile_cons_of_neg (by simpa using front)

theorem trimBlanks_idempotent (text : List Char) :
    trimBlanks (trimBlanks text) = trimBlanks text := by
  calc trimBlanks (trimBlanks text)
      = (trimBlanks text).rdropWhile isBlank :=
        congrArg (List.rdropWhile isBlank) (dropWhile_trimBlanks text)
    _ = trimBlanks text := List.rdropWhile_idempotent _ _

theorem trimBlanks_of_visible (visible : ∀ char ∈ text, isTargetChar char = true) :
    trimBlanks text = text := by
  have solid : ∀ char ∈ text, ¬ isBlank char = true := fun char member => by
    rw [not_isBlank_of_isTargetChar (visible char member)]
    exact Bool.false_ne_true
  have front : text.dropWhile isBlank = text :=
    List.dropWhile_eq_self_iff.mpr fun _ => solid _ (List.getElem_mem _)
  rw [trimBlanks, front]
  exact List.rdropWhile_eq_self_iff.mpr fun present => solid _ (List.getLast_mem present)

theorem isFieldValue_of_visible {value : String} (visible : Visible value) :
    IsFieldValue value :=
  ⟨fun char member => isValueChar_of_isTargetChar (visible char member),
    trimBlanks_of_visible visible⟩

end Blanks

section Lines

theorem readRequestLine_requestLine {message : RequestMessage} (method : IsToken message.method)
    (target : IsTarget message.target) :
    readRequestLine message.requestLine = some (message.method, message.target) := by
  have stops : isTargetChar ' ' = false := by decide
  have version : " HTTP/1.1".toList = ' ' :: "HTTP/1.1".toList := rfl
  have taken : (message.target.toList ++ " HTTP/1.1".toList).takeWhile isTargetChar =
      message.target.toList := by
    rw [version, List.takeWhile_append_of_pos target.2,
      List.takeWhile_cons_of_neg (by simp [stops]), List.append_nil]
  have dropped : (message.target.toList ++ " HTTP/1.1".toList).dropWhile isTargetChar =
      " HTTP/1.1".toList := by
    rw [version, List.dropWhile_append_of_pos target.2,
      List.dropWhile_cons_of_neg (by simp [stops])]
  unfold readRequestLine RequestMessage.requestLine
  simp only [dropWhile_token method (by decide : isTokenChar ' ' = false),
    takeWhile_token method (by decide : isTokenChar ' ' = false), taken, dropped,
    List.isEmpty_eq_false_iff.mpr method.1, List.isEmpty_eq_false_iff.mpr target.1, Bool.or_self,
    Bool.false_eq_true, if_false, if_true, String.ofList_toList]

theorem wellFormed_requestLine {line : List Char} {method target : String}
    (read : readRequestLine line = some (method, target)) : IsToken method ∧ IsTarget target := by
  unfold readRequestLine at read
  split at read
  · split at read
    · cases read
    · rename_i present
      split at read
      · cases read
        simp only [Bool.or_eq_true, List.isEmpty_iff, not_or] at present
        exact ⟨isToken_takeWhile present.1, isTarget_takeWhile present.2⟩
      · cases read
  · cases read

theorem firstLine_append {line : List Char} (whole : '\r' ∉ line) (rest : List Char) :
    firstLine (line ++ rest) = line ++ firstLine rest := by
  induction line with
  | nil => rfl
  | cons first others ih =>
    have other : first ≠ '\r' := fun same => whole (same ▸ List.mem_cons_self)
    rw [List.cons_append, firstLine, ih fun member => whole (List.mem_cons_of_mem _ member),
      List.cons_append]
    intro _ same
    exact absurd same other

/-- No target reaches beyond the end of its line. -/
theorem takeWhile_firstLine (text : List Char) :
    (firstLine text).takeWhile isTargetChar = text.takeWhile isTargetChar := by
  fun_induction firstLine text with
  | case1 rest => rfl
  | case2 first rest other ih =>
    cases visible : isTargetChar first with
    | true => rw [List.takeWhile_cons_of_pos visible, List.takeWhile_cons_of_pos visible, ih]
    | false => simp [visible]
  | case3 => rfl

section Targets

variable {message : RequestMessage}

/-- A well-formed target is found as it is. -/
theorem receivedTarget_of_isTarget (method : IsToken message.method)
    (target : IsTarget message.target) :
    receivedTarget (message.requestLine ++ lineEnd) = some message.target := by
  have whole : '\r' ∉ message.requestLine := by
    simp [RequestMessage.requestLine, return_not_mem_of_token method,
      return_not_mem_of_target target]
  rw [receivedTarget, firstLine_append whole]
  simp only [lineEnd, firstLine, List.append_nil, readRequestLine_requestLine method target,
    Option.map_some]

/-- Of any target, what is found is the part before its first blank or control character. -/
theorem toList_receivedTarget {read : String} (method : IsToken message.method)
    (found : receivedTarget (message.requestLine ++ lineEnd) = some read) :
    read.toList = message.target.toList.takeWhile isTargetChar := by
  obtain ⟨⟨name, target⟩, line, rfl⟩ := Option.map_eq_some_iff.mp found
  have blank : isTokenChar ' ' = false := by decide
  have first : firstLine (message.requestLine ++ lineEnd) =
      message.method.toList ++ ' ' ::
        firstLine (message.target.toList ++ (" HTTP/1.1".toList ++ lineEnd)) := by
    rw [RequestMessage.requestLine, List.append_assoc,
      firstLine_append (return_not_mem_of_token method), List.cons_append, firstLine,
      List.append_assoc]
    intro _ same
    cases same
  unfold readRequestLine at line
  rw [first, dropWhile_token method blank] at line
  simp only at line
  split at line
  · cases line
  · split at line
    · cases line
      rw [String.toList_ofList, takeWhile_firstLine, List.takeWhile_append]
      split
      · rename_i all
        rw [(List.takeWhile_prefix _).eq_of_length all]
        exact List.append_nil _
      · rfl
    · cases line

end Targets

theorem readField_fieldLine {field : String × String} (name : IsToken field.1)
    (value : IsFieldValue field.2) : readField (fieldLine field) = some field := by
  have allowed : (' ' :: field.2.toList).all isValueChar = true := by
    rw [List.all_cons, List.all_eq_true.mpr value.1]
    rfl
  unfold readField fieldLine
  simp only [dropWhile_token name (by decide : isTokenChar ':' = false),
    takeWhile_token name (by decide : isTokenChar ':' = false), allowed,
    List.isEmpty_eq_false_iff.mpr name.1, Bool.not_true, Bool.or_self, Bool.false_eq_true,
    if_false, trimBlanks_blank_cons, value.2, String.ofList_toList]

theorem wellFormed_field {line : List Char} {field : String × String}
    (read : readField line = some field) : IsToken field.1 ∧ IsFieldValue field.2 := by
  unfold readField at read
  split at read
  · split at read
    · cases read
    · rename_i rest _ passed
      cases read
      simp only [Bool.or_eq_true, List.isEmpty_iff, Bool.not_eq_true', not_or,
        Bool.not_eq_false] at passed
      refine ⟨isToken_takeWhile passed.1, ?_, ?_⟩
      · rw [String.toList_ofList]
        intro char member
        exact List.all_eq_true.mp passed.2 char (mem_of_mem_trimBlanks member)
      · rw [String.toList_ofList]
        exact trimBlanks_idempotent rest
  · cases read

theorem readFields_map {fields : List (String × String)}
    (plain : ∀ field ∈ fields, IsToken field.1 ∧ IsFieldValue field.2) :
    readFields (fields.map fieldLine) = some fields := by
  induction fields with
  | nil => rfl
  | cons field rest ih =>
    obtain ⟨name, value⟩ := plain field List.mem_cons_self
    have further := ih fun other member => plain other (List.mem_cons_of_mem _ member)
    rw [List.map_cons, readFields, readField_fieldLine name value, further]
    rfl

theorem wellFormed_fields {lines : List (List Char)} {fields : List (String × String)}
    (read : readFields lines = some fields) :
    ∀ field ∈ fields, IsToken field.1 ∧ IsFieldValue field.2 := by
  induction lines generalizing fields with
  | nil =>
    cases read
    nofun
  | cons line rest ih =>
    obtain ⟨field, first, read⟩ := Option.bind_eq_some_iff.mp read
    obtain ⟨others, further, read⟩ := Option.bind_eq_some_iff.mp read
    cases read
    intro other member
    rcases List.mem_cons.mp member with rfl | later
    · exact wellFormed_field first
    · exact ih further other later

end Lines

section Body

theorem takeBytes_cons (first : Char) (rest : List Char) (count : Nat) :
    takeBytes (first.utf8Size + count) (first :: rest) =
      (takeBytes count rest).map fun taken => (first :: taken.1, taken.2) := by
  obtain ⟨size, sized⟩ := Nat.exists_eq_succ_of_ne_zero (Char.utf8Size_pos first).ne'
  have total : first.utf8Size + count = (size + count) + 1 := by omega
  have remaining : size + count + 1 - first.utf8Size = count := by omega
  rw [total, takeBytes, remaining, if_pos (by omega)]

theorem utf8ByteSize_ofList_cons (first : Char) (rest : List Char) :
    (String.ofList (first :: rest)).utf8ByteSize =
      first.utf8Size + (String.ofList rest).utf8ByteSize := by
  rw [String.ofList_cons, String.utf8ByteSize_append, String.utf8ByteSize_singleton]

theorem takeBytes_append (text rest : List Char) :
    takeBytes (String.ofList text).utf8ByteSize (text ++ rest) = some (text, rest) := by
  induction text with
  | nil => cases rest <;> rfl
  | cons first others ih =>
    rw [utf8ByteSize_ofList_cons, List.cons_append, takeBytes_cons, ih]
    rfl

theorem utf8ByteSize_of_takeBytes {count : Nat} {text taken rest : List Char}
    (read : takeBytes count text = some (taken, rest)) :
    (String.ofList taken).utf8ByteSize = count := by
  induction text generalizing count taken with
  | nil =>
    cases count with
    | zero =>
      cases read
      rfl
    | succ count => cases read
  | cons first others ih =>
    cases count with
    | zero =>
      cases read
      rfl
    | succ count =>
      rw [takeBytes] at read
      split at read
      · obtain ⟨⟨more, left⟩, further, same⟩ := Option.map_eq_some_iff.mp read
        cases same
        rw [utf8ByteSize_ofList_cons, ih further]
        omega
      · cases read

end Body

section Messages

variable {message : RequestMessage}

theorem RequestMessage.WellFormed.lines_present (wellFormed : message.WellFormed) :
    ∀ line ∈ message.lines, line ≠ [] := by
  intro line member
  rcases List.mem_cons.mp member with rfl | later
  · exact List.append_ne_nil_of_left_ne_nil wellFormed.method.1 _
  · obtain ⟨field, own, rfl⟩ := List.mem_map.mp later
    exact List.append_ne_nil_of_left_ne_nil (wellFormed.fields field own).1.1 _

theorem RequestMessage.WellFormed.lines_whole (wellFormed : message.WellFormed) :
    ∀ line ∈ message.lines, '\r' ∉ line := by
  intro line member
  rcases List.mem_cons.mp member with rfl | later
  · simp [RequestMessage.requestLine, return_not_mem_of_token wellFormed.method,
      return_not_mem_of_target wellFormed.target]
  · obtain ⟨field, own, rfl⟩ := List.mem_map.mp later
    obtain ⟨name, value⟩ := wellFormed.fields field own
    simp [fieldLine, return_not_mem_of_token name, return_not_mem_of_value value]

/-- A well-formed request is read back from the front of any text. -/
theorem readRequest_render (wellFormed : message.WellFormed) (rest : List Char) :
    readRequest (message.render ++ rest) = some (message, rest) := by
  have head : readHead [] (message.render ++ rest) =
      some (message.lines, message.body.toList ++ rest) := by
    rw [RequestMessage.render, List.append_assoc, List.append_assoc]
    exact readHead_lines wellFormed.lines_present wellFormed.lines_whole _
  have body : takeBytes message.body.utf8ByteSize (message.body.toList ++ rest) =
      some (message.body.toList, rest) := by
    have taken := takeBytes_append message.body.toList rest
    rwa [String.ofList_toList] at taken
  unfold readRequest
  simp only [head, Option.bind_eq_bind, Option.bind_some, RequestMessage.lines,
    readRequestLine_requestLine wellFormed.method wellFormed.target,
    readFields_map wellFormed.fields, wellFormed.framed, body, Option.pure_def,
    String.ofList_toList]

/-- Only well-formed requests are read. -/
theorem wellFormed_of_readRequest {text rest : List Char}
    (read : readRequest text = some (message, rest)) : message.WellFormed := by
  obtain ⟨⟨lines, afterHead⟩, -, read⟩ := Option.bind_eq_some_iff.mp read
  cases lines with
  | nil => cases read
  | cons requestLine fieldLines =>
    obtain ⟨⟨method, target⟩, first, read⟩ := Option.bind_eq_some_iff.mp read
    obtain ⟨fields, others, read⟩ := Option.bind_eq_some_iff.mp read
    obtain ⟨length, framed, read⟩ := Option.bind_eq_some_iff.mp read
    obtain ⟨⟨body, afterBody⟩, taken, read⟩ := Option.bind_eq_some_iff.mp read
    cases read
    obtain ⟨token, visible⟩ := wellFormed_requestLine first
    exact ⟨token, visible, wellFormed_fields others,
      framed.trans (congrArg some (utf8ByteSize_of_takeBytes taken).symm)⟩

theorem render_ne_nil (message : RequestMessage) : message.render ≠ [] := by
  simp [RequestMessage.render, lineEnd]

theorem readRequests_render {messages : List RequestMessage} {limit : Nat}
    (enough : messages.length ≤ limit) (wellFormed : ∀ message ∈ messages, message.WellFormed) :
    readRequests limit (messages.flatMap RequestMessage.render) = some messages := by
  induction messages generalizing limit with
  | nil => cases limit <;> rfl
  | cons message rest ih =>
    obtain ⟨remaining, rfl⟩ := Nat.exists_eq_succ_of_ne_zero
      (Nat.ne_of_gt (Nat.lt_of_lt_of_le (Nat.succ_pos _) enough))
    have further := ih (Nat.le_of_succ_le_succ enough)
      fun other member => wellFormed other (List.mem_cons_of_mem _ member)
    have read := readRequest_render (wellFormed message List.mem_cons_self)
      (rest.flatMap RequestMessage.render)
    obtain ⟨first, others, written⟩ := List.exists_cons_of_ne_nil
      (List.append_ne_nil_of_left_ne_nil (render_ne_nil message)
        (rest.flatMap RequestMessage.render))
    rw [List.flatMap_cons]
    rw [written] at read ⊢
    rw [readRequests, read]
    change (readRequests remaining _).bind _ = _
    rw [further]
    rfl

theorem wellFormed_of_readRequests {limit : Nat} {text : List Char}
    {messages : List RequestMessage} (read : readRequests limit text = some messages) :
    ∀ message ∈ messages, message.WellFormed := by
  induction limit generalizing text messages with
  | zero =>
    cases text with
    | nil =>
      cases read
      nofun
    | cons first rest => cases read
  | succ limit ih =>
    cases text with
    | nil =>
      cases read
      nofun
    | cons first rest =>
      obtain ⟨⟨message, more⟩, front, read⟩ := Option.bind_eq_some_iff.mp read
      obtain ⟨others, further, read⟩ := Option.bind_eq_some_iff.mp read
      cases read
      intro other member
      rcases List.mem_cons.mp member with rfl | later
      · exact wellFormed_of_readRequest front
      · exact ih further other later

theorem length_le_flatMap_render (messages : List RequestMessage) :
    messages.length ≤ (messages.flatMap RequestMessage.render).length := by
  induction messages with
  | nil => exact Nat.le_refl _
  | cons message rest ih =>
    have written := List.length_pos_iff.mpr (render_ne_nil message)
    rw [List.flatMap_cons, List.length_append, List.length_cons]
    omega

/-- The requests of a connection are read back exactly if all of them are well formed. -/
theorem readConnection_render_iff (messages : List RequestMessage) :
    readConnection (messages.flatMap RequestMessage.render) = some messages ↔
      ∀ message ∈ messages, message.WellFormed :=
  ⟨wellFormed_of_readRequests, readRequests_render (length_le_flatMap_render messages)⟩

end Messages

end Bintrade.System.Http

import Bintrade.Core.Error
import Bintrade.System.StdString

/-! `ParsedUrl::from` of `http_client.cpp`. How it finds the host and the port is shared with
`ParsedWssUrl::from`, which is a copy of it. -/

namespace Bintrade.Rest

open Bintrade.System Bintrade.Core StdString

def schemeEnd : List Char := "://".toList

def outOfRange : Exception := .outOfRange "basic_string::substr"

/-- The position of the first `://`. -/
def findScheme (invalid : String) (url : StdString) : Scan Exception Position :=
  let pos := url.find schemeEnd 0
  if pos = npos then .raise (.invalidArgument (invalid ++ String.ofList url.chars)) else pure pos

/-- Where the path starts, which is at the end if there is none. -/
def pathPosition (url : StdString) (hostStart : Position) : Position :=
  let pathPos := url.find ['/'] hostStart
  if pathPos = npos then url.size else pathPos

/-- From the start of the host on, what both parsers do. -/
def hostAndPort (url : StdString) (hostStart : Position) (defaultPort : StdString) :
    Scan Exception (StdString × StdString) := do
  let portPos := url.find [':'] hostStart
  let pathPos := pathPosition url hostStart
  if portPos ≠ npos ∧ portPos < pathPos then
    let host ← url.substr outOfRange hostStart (← minus portPos hostStart)
    let port ← url.substr outOfRange (portPos + 1) (← minus (← minus pathPos portPos) 1)
    pure (host, port)
  else
    let host ← url.substr outOfRange hostStart (← minus pathPos hostStart)
    pure (host, defaultPort)

structure ParsedUrl where
  scheme : StdString
  host : StdString
  port : StdString

def httpsPort : StdString := ⟨"443".toList, by decide⟩

def httpPort : StdString := ⟨"80".toList, by decide⟩

def ParsedUrl.from (url : StdString) : Scan Exception ParsedUrl := do
  let pos ← findScheme "Invalid base_url: " url
  let scheme ← url.substr outOfRange 0 pos
  let (host, port) ← hostAndPort url (pos + 3)
    (if scheme.chars = "https".toList then httpsPort else httpPort)
  pure { scheme, host, port }

/-- The parts a URL is put together from. The path may contain `:` and `://`. -/
structure UrlParts where
  scheme : List Char
  host : List Char
  port : Option (List Char)
  path : List Char
  schemeFree : ¬ schemeEnd <:+: scheme
  hostFree : ':' ∉ host ∧ '/' ∉ host
  portFree : ∀ digits ∈ port, '/' ∉ digits
  pathRooted : path = [] ∨ ∃ segments, path = '/' :: segments

namespace UrlParts

def portText (parts : UrlParts) : List Char := parts.port.elim [] (':' :: ·)

def text (parts : UrlParts) : List Char :=
  parts.scheme ++ (schemeEnd ++ (parts.host ++ (parts.portText ++ parts.path)))

/-- A rooted path is what follows a text without `/`. -/
theorem exists_path (chars : List Char) :
    ∃ authority path, chars = authority ++ path ∧ '/' ∉ authority ∧
      (path = [] ∨ ∃ segments, path = '/' :: segments) := by
  by_cases present : '/' ∈ chars
  · obtain ⟨authority, segments, split, absent⟩ := List.eq_append_cons_of_mem present
    exact ⟨authority, '/' :: segments, split, absent, .inr ⟨segments, rfl⟩⟩
  · exact ⟨chars, [], (List.append_nil chars).symm, present, .inl rfl⟩

/-- Every string with `://` is put together from parts. -/
theorem exists_text {chars : List Char} (present : schemeEnd <:+: chars) :
    ∃ parts : UrlParts, chars = parts.text := by
  obtain ⟨scheme, rest, split, schemeFree⟩ := exists_first (by decide) present
  obtain ⟨authority, path, restSplit, noSlash, pathRooted⟩ := exists_path rest
  by_cases colon : ':' ∈ authority
  · obtain ⟨host, digits, authoritySplit, noColon⟩ := List.eq_append_cons_of_mem colon
    rw [authoritySplit, List.mem_append, List.mem_cons] at noSlash
    have hostFree : ':' ∉ host ∧ '/' ∉ host := ⟨noColon, fun member => noSlash (.inl member)⟩
    have portFree : ∀ given ∈ some digits, '/' ∉ given := by
      intro given same member
      cases same
      exact noSlash (.inr (.inr member))
    refine ⟨⟨scheme, host, some digits, path, schemeFree, hostFree, portFree, pathRooted⟩, ?_⟩
    rw [split, restSplit, authoritySplit, List.append_assoc]
    rfl
  · refine ⟨⟨scheme, authority, none, path, schemeFree, ⟨colon, noSlash⟩, nofun, pathRooted⟩, ?_⟩
    rw [split, restSplit]
    rfl

end UrlParts

section Rendered

variable {url : StdString} {parts : UrlParts} {hostStart : Position}

theorem length_rendered (rendered : url.chars = parts.text) :
    url.chars.length = parts.scheme.length + 3 + parts.host.length + parts.portText.length +
      parts.path.length := by
  have three : schemeEnd.length = 3 := by decide
  rw [rendered, UrlParts.text]
  simp only [List.length_append, three]
  omega

theorem split_host (rendered : url.chars = parts.text) :
    url.chars = (parts.scheme ++ schemeEnd) ++ (parts.host ++ (parts.portText ++ parts.path)) := by
  rw [rendered, UrlParts.text, List.append_assoc]

theorem split_port {digits : List Char} (rendered : url.chars = parts.text)
    (portText : parts.portText = ':' :: digits) :
    url.chars = (parts.scheme ++ schemeEnd ++ parts.host ++ [':']) ++ (digits ++ parts.path) := by
  rw [split_host rendered, portText]
  simp only [List.append_assoc, List.cons_append, List.nil_append]

theorem length_opening (parts : UrlParts) :
    (parts.scheme ++ schemeEnd).length = parts.scheme.length + 3 :=
  List.length_append

theorem drop_rendered (rendered : url.chars = parts.text)
    (start : hostStart.toNat = parts.scheme.length + 3) :
    url.chars.drop hostStart.toNat = parts.host ++ (parts.portText ++ parts.path) := by
  rw [split_host rendered, start, ← length_opening, List.drop_left]

/-- There is no `/` before the path. -/
theorem toNat_pathPosition (rendered : url.chars = parts.text)
    (start : hostStart.toNat = parts.scheme.length + 3) :
    (pathPosition url hostStart).toNat =
      hostStart.toNat + parts.host.length + parts.portText.length := by
  have length := length_rendered rendered
  have rest := drop_rendered rendered start
  have noSlash : '/' ∉ parts.host ++ parts.portText := by
    rw [List.mem_append]
    rintro (inHost | inPort)
    · exact parts.hostFree.2 inHost
    · cases port : parts.port with
      | none => simp [UrlParts.portText, port] at inPort
      | some digits =>
        rw [UrlParts.portText, port] at inPort
        rcases List.mem_cons.mp inPort with same | inDigits
        · exact absurd same (by decide)
        · exact parts.portFree digits port inDigits
  rw [← List.append_assoc] at rest
  rcases parts.pathRooted with none | ⟨segments, rooted⟩
  · rw [none, List.append_nil] at rest
    have nothing : url.find ['/'] hostStart = npos := by
      apply find_char_of_not_mem
      rw [rest]
      exact noSlash
    rw [pathPosition, if_pos nothing, toNat_size, length, none, List.length_nil, start]
    omega
  · rw [rooted] at rest
    obtain ⟨found, position⟩ := find_char_of_split noSlash rest
    rw [pathPosition, if_neg found, position, List.length_append]
    omega

theorem toNat_portPos {digits : List Char} (rendered : url.chars = parts.text)
    (start : hostStart.toNat = parts.scheme.length + 3) (port : parts.port = some digits) :
    url.find [':'] hostStart ≠ npos ∧
      (url.find [':'] hostStart).toNat = hostStart.toNat + parts.host.length := by
  have rest := drop_rendered rendered start
  rw [UrlParts.portText, port] at rest
  exact find_char_of_split parts.hostFree.1 rest

/-- Without a port, a `:` can only be in the path. -/
theorem portPos_not_before_path (rendered : url.chars = parts.text)
    (start : hostStart.toNat = parts.scheme.length + 3) (port : parts.port = none) :
    ¬ (url.find [':'] hostStart ≠ npos ∧
      url.find [':'] hostStart < pathPosition url hostStart) := by
  rintro ⟨found, before⟩
  have pathPos := toNat_pathPosition rendered start
  have rest := drop_rendered rendered start
  have noText : parts.portText = [] := by
    rw [UrlParts.portText, port]
    rfl
  rw [noText] at pathPos rest
  by_cases present : ':' ∈ parts.path
  · obtain ⟨early, late, split, absent⟩ := List.eq_append_cons_of_mem present
    have absent' : ':' ∉ parts.host ++ early := by
      rw [List.mem_append]
      exact not_or.mpr ⟨parts.hostFree.1, absent⟩
    rw [split, List.nil_append, ← List.append_assoc] at rest
    obtain ⟨_, portPos⟩ := find_char_of_split absent' rest
    rw [BitVec.lt_def, pathPos, portPos, List.length_append, List.length_nil] at before
    omega
  · refine found (find_char_of_not_mem ?_)
    rw [rest, List.nil_append, List.mem_append]
    exact not_or.mpr ⟨parts.hostFree.1, present⟩

/-- Where the host ends, `substr` returns it. -/
theorem ends_host {stop : Position} (rendered : url.chars = parts.text)
    (start : hostStart.toNat = parts.scheme.length + 3)
    (stops : stop.toNat = hostStart.toNat + parts.host.length) :
    hostStart ≤ stop ∧
      ∃ host, (url.substr outOfRange hostStart (stop - hostStart)).Ends (.ok host) ∧
        host.chars = parts.host := by
  have ordered : hostStart ≤ stop := by
    rw [BitVec.le_def, stops]
    exact Nat.le_add_right _ _
  refine ⟨ordered, ends_substr_of_split (split_host rendered) ?_ ?_ outOfRange⟩
  · rw [start, length_opening]
  · rw [BitVec.toNat_sub_of_le ordered, stops, Nat.add_sub_cancel_left]

/-- Between the `:` and the path, `substr` returns the port. -/
theorem ends_port {digits : List Char} {portPos pathPos : Position}
    (rendered : url.chars = parts.text) (portText : parts.portText = ':' :: digits)
    (starts : portPos.toNat = parts.scheme.length + 3 + parts.host.length)
    (stops : pathPos.toNat = portPos.toNat + (digits.length + 1)) :
    portPos < pathPos ∧ 1 ≤ pathPos - portPos ∧
      ∃ port, (url.substr outOfRange (portPos + 1) (pathPos - portPos - 1)).Ends (.ok port) ∧
        port.chars = digits := by
  have one : (1 : Position).toNat = 1 := rfl
  have length := length_rendered rendered
  rw [portText, List.length_cons] at length
  have before : portPos < pathPos := by
    rw [BitVec.lt_def]
    omega
  have distance := BitVec.toNat_sub_of_le (BitVec.le_of_lt before)
  have colon : 1 ≤ pathPos - portPos := by
    rw [BitVec.le_def]
    omega
  refine ⟨before, colon, ends_substr_of_split (split_port rendered portText) ?_ ?_ outOfRange⟩
  · have behind : (portPos + 1).toNat = portPos.toNat + 1 := by
      apply url.toNat_advance
      omega
    rw [behind, starts, List.length_append, List.length_append, length_opening]
    rfl
  · rw [BitVec.toNat_sub_of_le colon]
    omega

theorem hostAndPort_ends_some {digits : List Char} (rendered : url.chars = parts.text)
    (start : hostStart.toNat = parts.scheme.length + 3) (port : parts.port = some digits)
    (defaultPort : StdString) :
    ∃ host port, (hostAndPort url hostStart defaultPort).Ends (.ok (host, port)) ∧
      host.chars = parts.host ∧ port.chars = digits := by
  have portText : parts.portText = ':' :: digits := by
    rw [UrlParts.portText, port]
    rfl
  have pathPos := toNat_pathPosition rendered start
  obtain ⟨present, portPos⟩ := toNat_portPos rendered start port
  rw [← portPos, portText, List.length_cons] at pathPos
  obtain ⟨ordered, host, hostEnds, hostChars⟩ := ends_host rendered start portPos
  rw [start] at portPos
  obtain ⟨before, colon, found, portEnds, portChars⟩ :=
    ends_port rendered portText portPos pathPos
  refine ⟨host, found, ?_, hostChars, portChars⟩
  rw [hostAndPort, if_pos ⟨present, before⟩]
  refine (ends_minus ordered).bind (hostEnds.bind ?_)
  refine (ends_minus (BitVec.le_of_lt before)).bind ((ends_minus colon).bind ?_)
  exact portEnds.bind (Scan.ends_pure _)

theorem hostAndPort_ends_none (rendered : url.chars = parts.text)
    (start : hostStart.toNat = parts.scheme.length + 3) (port : parts.port = none)
    (defaultPort : StdString) :
    ∃ host, (hostAndPort url hostStart defaultPort).Ends (.ok (host, defaultPort)) ∧
      host.chars = parts.host := by
  have stops : (pathPosition url hostStart).toNat = hostStart.toNat + parts.host.length := by
    rw [toNat_pathPosition rendered start, UrlParts.portText, port]
    rfl
  obtain ⟨ordered, host, hostEnds, hostChars⟩ := ends_host rendered start stops
  refine ⟨host, ?_, hostChars⟩
  rw [hostAndPort, if_neg (portPos_not_before_path rendered start port)]
  exact (ends_minus ordered).bind (hostEnds.bind (Scan.ends_pure _))

/-- What both parsers return of a URL put together from parts. -/
theorem hostAndPort_ends (rendered : url.chars = parts.text)
    (start : hostStart.toNat = parts.scheme.length + 3) (defaultPort : StdString) :
    ∃ host port, (hostAndPort url hostStart defaultPort).Ends (.ok (host, port)) ∧
      host.chars = parts.host ∧ port.chars = parts.port.getD defaultPort.chars := by
  cases port : parts.port with
  | some digits => exact hostAndPort_ends_some rendered start port defaultPort
  | none =>
    obtain ⟨host, ends, hostChars⟩ := hostAndPort_ends_none rendered start port defaultPort
    exact ⟨host, defaultPort, ends, hostChars, rfl⟩

/-- The scheme ends at the first `://`. -/
theorem findScheme_ends (rendered : url.chars = parts.text) (invalid : String) :
    ∃ pos, (findScheme invalid url).Ends (.ok pos) ∧ pos.toNat = parts.scheme.length ∧
      (pos + 3).toNat = parts.scheme.length + 3 := by
  have length := length_rendered rendered
  have three : (3 : Position).toNat = 3 := rfl
  have unbordered : Unbordered schemeEnd := by decide
  have whole : url.chars.drop (0 : Position).toNat = parts.text := rendered
  obtain ⟨found, position⟩ := find_of_split unbordered parts.schemeFree whole
  have pos : (url.find schemeEnd 0).toNat = parts.scheme.length := by
    rw [position]
    exact Nat.zero_add _
  refine ⟨url.find schemeEnd 0, ?_, pos, ?_⟩
  · rw [findScheme, if_neg found]
    exact Scan.ends_pure _
  · rw [← pos]
    apply url.toNat_advance
    omega

/-- The scheme decides the port a URL has if it names none. -/
theorem ParsedUrl.from_ends (rendered : url.chars = parts.text) :
    ∃ parsed, (ParsedUrl.from url).Ends (.ok parsed) ∧ parsed.scheme.chars = parts.scheme ∧
      parsed.host.chars = parts.host ∧
      parsed.port.chars = parts.port.getD
        (if parts.scheme = "https".toList then "443".toList else "80".toList) := by
  obtain ⟨pos, schemeFound, position, start⟩ := findScheme_ends rendered "Invalid base_url: "
  have split : url.chars = [] ++ (parts.scheme ++ _) := rendered
  have first : (0 : Position).toNat = ([] : List Char).length := rfl
  obtain ⟨scheme, schemeEnds, schemeChars⟩ := ends_substr_of_split split first position outOfRange
  obtain ⟨host, port, ends, hostChars, portChars⟩ := hostAndPort_ends rendered start
    (if scheme.chars = "https".toList then httpsPort else httpPort)
  refine ⟨⟨scheme, host, port⟩, ?_, schemeChars, hostChars, ?_⟩
  · exact schemeFound.bind (schemeEnds.bind (ends.bind (Scan.ends_pure _)))
  · rw [portChars, schemeChars]
    split <;> rfl

end Rendered

section Malformed

variable {α : Type} {url : StdString}

theorem findScheme_raises (absent : ¬ schemeEnd <:+: url.chars) (invalid : String) :
    (findScheme invalid url).Ends
      (.error (.invalidArgument (invalid ++ String.ofList url.chars))) := by
  have nothing : url.find schemeEnd 0 = npos := find_of_absent absent
  rw [findScheme, if_pos nothing]
  exact Scan.ends_raise _

theorem ParsedUrl.from_raises (absent : ¬ schemeEnd <:+: url.chars) :
    ∃ message, (ParsedUrl.from url).Ends (.error (.invalidArgument message)) :=
  ⟨_, (findScheme_raises absent _).bind_error⟩

/-- A parser that returns on parts and raises without `://` raises on nothing else. -/
theorem raises_iff (url : StdString) {scan : Scan Exception α}
    (returns : ∀ parts : UrlParts, url.chars = parts.text → ∃ parsed, scan.Ends (.ok parsed))
    (raises : ¬ schemeEnd <:+: url.chars →
      ∃ message, scan.Ends (.error (.invalidArgument message))) :
    ((∃ message, scan.outcome = .error (.invalidArgument message)) ↔
        ¬ schemeEnd <:+: url.chars) ∧
      ∀ operation ∈ scan.operations, operation.Sound := by
  by_cases present : schemeEnd <:+: url.chars
  · obtain ⟨parts, rendered⟩ := UrlParts.exists_text present
    obtain ⟨parsed, ends⟩ := returns parts rendered
    refine ⟨⟨?_, fun absent => absurd present absent⟩, ends.sound⟩
    rintro ⟨message, raised⟩
    rw [ends.outcome] at raised
    cases raised
  · obtain ⟨message, ends⟩ := raises present
    exact ⟨⟨fun _ => present, fun _ => ⟨message, ends.outcome⟩⟩, ends.sound⟩

end Malformed

end Bintrade.Rest

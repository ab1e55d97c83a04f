import Bintrade.Rest.ParsedUrl

/-! `ParsedWssUrl::from` of `websocket_client.cpp`, and what the two parsers of base URLs have in
common: they take a URL apart into the parts it was put together from. -/

namespace Bintrade.Ws

open Bintrade.System Bintrade.Core Bintrade.Rest StdString

structure ParsedWssUrl where
  host : StdString
  port : StdString

def ParsedWssUrl.from (url : StdString) : Scan Exception ParsedWssUrl := do
  let pos ← findScheme "Invalid WebSocket URL: " url
  let (host, port) ← hostAndPort url (pos + 3) httpsPort
  pure { host, port }

variable {url : StdString}

theorem ParsedWssUrl.from_ends {parts : UrlParts} (rendered : url.chars = parts.text) :
    ∃ parsed, (ParsedWssUrl.from url).Ends (.ok parsed) ∧ parsed.host.chars = parts.host ∧
      parsed.port.chars = parts.port.getD "443".toList := by
  obtain ⟨pos, schemeFound, -, start⟩ := findScheme_ends rendered "Invalid WebSocket URL: "
  obtain ⟨host, port, ends, hostChars, portChars⟩ := hostAndPort_ends rendered start httpsPort
  refine ⟨⟨host, port⟩, ?_, hostChars, portChars⟩
  exact schemeFound.bind (ends.bind (Scan.ends_pure _))

theorem ParsedWssUrl.from_raises (absent : ¬ schemeEnd <:+: url.chars) :
    ∃ message, (ParsedWssUrl.from url).Ends (.error (.invalidArgument message)) :=
  ⟨_, (findScheme_raises absent _).bind_error⟩

/-- Both parsers invert the construction of a URL, reject exactly what has no `://`, and keep
inside the string whatever it is. -/
theorem base_url_parsing_inverts (url : StdString) :
    (∀ parts : UrlParts, url.chars = parts.text →
      (∃ parsed, (ParsedUrl.from url).outcome = .ok parsed ∧
        parsed.scheme.chars = parts.scheme ∧ parsed.host.chars = parts.host ∧
        parsed.port.chars = parts.port.getD
          (if parts.scheme = "https".toList then "443".toList else "80".toList)) ∧
      ∃ parsed, (ParsedWssUrl.from url).outcome = .ok parsed ∧
        parsed.host.chars = parts.host ∧ parsed.port.chars = parts.port.getD "443".toList) ∧
    ((∃ message, (ParsedUrl.from url).outcome = .error (.invalidArgument message)) ↔
      ¬ schemeEnd <:+: url.chars) ∧
    ((∃ message, (ParsedWssUrl.from url).outcome = .error (.invalidArgument message)) ↔
      ¬ schemeEnd <:+: url.chars) ∧
    (∀ operation ∈ (ParsedUrl.from url).operations, operation.Sound) ∧
    ∀ operation ∈ (ParsedWssUrl.from url).operations, operation.Sound := by
  obtain ⟨baseRaises, baseSound⟩ := raises_iff url
    (fun parts rendered => (ParsedUrl.from_ends rendered).imp fun _ ends => ends.1)
    ParsedUrl.from_raises
  obtain ⟨wssRaises, wssSound⟩ := raises_iff url
    (fun parts rendered => (ParsedWssUrl.from_ends rendered).imp fun _ ends => ends.1)
    ParsedWssUrl.from_raises
  refine ⟨?_, baseRaises, wssRaises, baseSound, wssSound⟩
  intro parts rendered
  obtain ⟨base, baseEnds, baseParts⟩ := ParsedUrl.from_ends rendered
  obtain ⟨wss, wssEnds, wssParts⟩ := ParsedWssUrl.from_ends rendered
  exact ⟨⟨base, baseEnds.outcome, baseParts⟩, wss, wssEnds.outcome, wssParts⟩

/-- The default of `WebSocketConfig::base_url`. -/
def streamParts : UrlParts where
  scheme := "wss".toList
  host := "stream.binance.com".toList
  port := some "9443".toList
  path := []
  schemeFree := by decide
  hostFree := by decide
  portFree := by decide
  pathRooted := .inl rfl

def streamUrl : StdString := ⟨"wss://stream.binance.com:9443".toList, by decide⟩

theorem base_url_parsing_inverts_stream :
    streamUrl.chars = streamParts.text ∧
      ∃ parsed, (ParsedWssUrl.from streamUrl).outcome = .ok parsed ∧
        parsed.host.chars = "stream.binance.com".toList ∧
        parsed.port.chars = "9443".toList :=
  ⟨by decide, ((base_url_parsing_inverts streamUrl).1 streamParts (by decide)).2⟩

end Bintrade.Ws

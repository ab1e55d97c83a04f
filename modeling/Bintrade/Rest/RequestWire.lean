import Bintrade.System.HttpMessage
import Bintrade.Rest.HttpClient

/-! The requests that `do_request` writes, as the server reads them from a connection. -/

namespace Bintrade.Rest.HttpClient

open Bintrade.System Bintrade.System.Http Bintrade.Core

def Message.onWire (message : Message) : RequestMessage where
  method := verbString message.verb
  target := message.target
  fields := message.fields
  body := message.body

def PlainField (field : String × String) : Prop := IsToken field.1 ∧ IsFieldValue field.2

/-- A field of this name says nothing about the length of the body. -/
def Unframed (name : String) : Prop :=
  sameName "Transfer-Encoding" name = false ∧ sameName "Content-Length" name = false

instance (field : String × String) : Decidable (PlainField field) :=
  inferInstanceAs (Decidable (_ ∧ _))

instance (name : String) : Decidable (Unframed name) := inferInstanceAs (Decidable (_ ∧ _))

section Fields

variable {fields added : List (String × String)} {field : String × String}
  {Holds : String × String → Prop}

theorem forall_setField (all : ∀ other ∈ fields, Holds other) (own : Holds field) :
    ∀ other ∈ setField fields field, Holds other := by
  intro other member
  rcases List.mem_append.mp member with kept | new
  · exact all other (List.mem_filter.mp kept).1
  · exact List.mem_singleton.mp new ▸ own

theorem forall_foldl_setField (all : ∀ other ∈ fields, Holds other)
    (more : ∀ other ∈ added, Holds other) :
    ∀ other ∈ added.foldl setField fields, Holds other := by
  induction added generalizing fields with
  | nil => exact all
  | cons first rest ih =>
    exact ih (forall_setField all (more first List.mem_cons_self))
      fun other member => more other (List.mem_cons_of_mem _ member)

theorem bodyLength_of_unframed (unframed : ∀ other ∈ fields, Unframed other.1) :
    bodyLength fields = some 0 := by
  have uncoded : fields.any (fun other => sameName "Transfer-Encoding" other.1) = false :=
    List.any_eq_false.mpr fun other member => by simp [(unframed other member).1]
  have unmeasured : fields.filter (fun other => sameName "Content-Length" other.1) = [] :=
    List.filter_eq_nil_iff.mpr fun other member => by simp [(unframed other member).2]
  rw [bodyLength, uncoded, unmeasured]
  rfl

/-- The length is the only one, whatever was set before. -/
theorem bodyLength_setField (unframed : ∀ other ∈ fields, Unframed other.1) (length : Nat) :
    bodyLength (setField fields ("Content-Length", toString length)) = some length := by
  have own : sameName "Content-Length" "Content-Length" = true := by decide
  have apart : sameName "Transfer-Encoding" "Content-Length" = false := by decide
  have uncoded : (setField fields ("Content-Length", toString length)).any
      (fun other => sameName "Transfer-Encoding" other.1) = false := by
    refine List.any_eq_false.mpr (forall_setField (fun other member => ?_) ?_)
    · simp [(unframed other member).1]
    · simp [apart]
  have earlier : (fields.filter fun other => toLower other.1 ≠ toLower "Content-Length").filter
      (fun other => sameName "Content-Length" other.1) = [] := by
    refine List.filter_eq_nil_iff.mpr fun other member => ?_
    simp [(unframed other (List.mem_filter.mp member).1).2]
  have measured : (setField fields ("Content-Length", toString length)).filter
      (fun other => sameName "Content-Length" other.1) = [("Content-Length", toString length)] := by
    rw [setField, List.filter_append, earlier]
    simp [own]
  rw [bodyLength, uncoded, measured]
  exact readNumber_toString length

end Fields

/-- The fields that are set before those of the body. -/
def headFields (settings : Settings) (request : HttpRequest) : List (String × String) :=
  let fields := [("Host", settings.host), ("User-Agent", "bintrade/0.1.0"),
    ("Accept", "application/json"), ("Connection", "keep-alive")]
  request.extraHeaders.entries.foldl setField
    (if settings.apiKey.isEmpty then fields else setField fields ("X-MBX-APIKEY", settings.apiKey))

section Requests

variable {settings : Settings} {request : HttpRequest}

theorem forall_headFields {Holds : String × String → Prop}
    (host : Holds ("Host", settings.host)) (agent : Holds ("User-Agent", "bintrade/0.1.0"))
    (accept : Holds ("Accept", "application/json"))
    (connection : Holds ("Connection", "keep-alive"))
    (key : Holds ("X-MBX-APIKEY", settings.apiKey))
    (headers : ∀ header ∈ request.extraHeaders.entries, Holds header) :
    ∀ field ∈ headFields settings request, Holds field := by
  have fixed : ∀ field ∈ [("Host", settings.host), ("User-Agent", "bintrade/0.1.0"),
      ("Accept", "application/json"), ("Connection", "keep-alive")], Holds field := by
    simp only [List.forall_mem_cons]
    exact ⟨host, agent, accept, connection, nofun⟩
  refine forall_foldl_setField ?_ headers
  split
  · exact fixed
  · exact forall_setField fixed key

theorem plain_headFields (host : IsFieldValue settings.host) (key : IsFieldValue settings.apiKey)
    (headers : ∀ header ∈ request.extraHeaders.entries, PlainField header) :
    ∀ field ∈ headFields settings request, PlainField field :=
  forall_headFields ⟨(by decide : IsToken "Host"), host⟩ (by decide) (by decide) (by decide)
    ⟨(by decide : IsToken "X-MBX-APIKEY"), key⟩ headers

theorem unframed_headFields (settings : Settings)
    (headers : ∀ header ∈ request.extraHeaders.entries, Unframed header.1) :
    ∀ field ∈ headFields settings request, Unframed field.1 :=
  forall_headFields (by decide : Unframed "Host") (by decide : Unframed "User-Agent")
    (by decide : Unframed "Accept") (by decide : Unframed "Connection")
    (by decide : Unframed "X-MBX-APIKEY") headers

theorem isToken_verbString (verb : Verb) : IsToken (verbString verb) := by
  cases verb <;> decide

/-- Everything but the target is as it should be, and a body comes with its length. -/
theorem wellFormed_buildRequest_iff (host : IsFieldValue settings.host)
    (key : IsFieldValue settings.apiKey)
    (headers : ∀ header ∈ request.extraHeaders.entries, PlainField header ∧ Unframed header.1) :
    (buildRequest settings request).onWire.WellFormed ↔ IsTarget request.target := by
  have plain := plain_headFields host key fun header member => (headers header member).1
  have unframed := unframed_headFields settings fun header member => (headers header member).2
  refine ⟨fun wellFormed => wellFormed.target, fun target => ?_⟩
  have built : (buildRequest settings request).fields =
      if request.body.isEmpty then headFields settings request
      else setField (setField (headFields settings request)
        ("Content-Type", "application/x-www-form-urlencoded"))
        ("Content-Length", toString request.body.utf8ByteSize) := rfl
  refine ⟨isToken_verbString request.verb, target, ?_, ?_⟩
  · change ∀ field ∈ (buildRequest settings request).fields, PlainField field
    rw [built]
    split
    · exact plain
    · exact forall_setField (forall_setField plain (by decide))
        ⟨(by decide : IsToken "Content-Length"), isFieldValue_of_visible (visible_toString _)⟩
  · change bodyLength (buildRequest settings request).fields = some request.body.utf8ByteSize
    rw [built]
    split
    · rename_i empty
      rw [bodyLength_of_unframed unframed, String.isEmpty_iff.mp empty]
      rfl
    · exact bodyLength_setField
        (forall_setField unframed (by decide : Unframed "Content-Type")) _

end Requests

def liveSettings : Settings where
  poolSize := 4
  host := "api.binance.com"
  apiKey := ""
  request := fun _ => asyncPost "/api/v3/order" "" .empty

end Bintrade.Rest.HttpClient

import Retrywise.Domain.Progress
import Retrywise.ControlPlane.PaymentLinkAdapter

/-!
# The provider's answers: which writes have an outcome

The two writes of an adapter that is open, for the account it is pinned to. `DecodingError` is
not a `TransportError`, and of what `json.loads` raises only the decode error is caught: with the
request sent, such a write has no outcome.

> `provider_writes`: a write ends in a sound outcome exactly when its answer can be read, and a
> lookup is complete only over a whole list of its reference.
-/

namespace Retrywise.ControlPlane.Razorpay

open Retrywise.Foundation Retrywise.Domain

section

variable [JsonLoads] {adapter : Adapter} {providerAccountId : String}

/-- Past the checks of the request, a create is what becomes of its exchange. -/
theorem createStandardPaymentLink_eq {request : StandardPaymentLinkRequest} {now : Timestamp}
    (hpinned : adapter.assertAccount providerAccountId = .ok ())
    (hexpiry : request.validateExpiry now = .ok ()) (exchange : Exchange) :
    createStandardPaymentLink adapter request providerAccountId now exchange =
      settleExchange request exchange := by
  have hepoch : ¬epochSeconds now < 0 := by
    obtain ⟨_, hepoch, -⟩ := bind_ok_iff.mp hexpiry
    exact raiseIf_ok_iff.mp hepoch
  unfold createStandardPaymentLink
  rw [bind_of_ok hpinned, bind_of_ok (raiseIf_of_not _ hepoch),
    bind_of_ok (mapError_ok_iff.mpr hexpiry)]

/-- Past the check of the id, a cancel is what becomes of its exchange. -/
theorem cancelPaymentLink_eq {paymentLinkId : String}
    (hpinned : adapter.assertAccount providerAccountId = .ok ())
    (hid : isPaymentLinkId paymentLinkId = true) (exchange : Exchange) :
    cancelPaymentLink adapter paymentLinkId providerAccountId exchange =
      settleCancelExchange paymentLinkId exchange := by
  unfold cancelPaymentLink
  rw [bind_of_ok hpinned, bind_of_ok (raiseIf_of_not _ (not_not.mpr hid))]

/-- **A write has a sound outcome exactly when its answer can be read.** -/
theorem provider_writes (adapter : Adapter) (providerAccountId : String)
    (hpinned : adapter.assertAccount providerAccountId = .ok ()) :
    (∀ request now exchange, request.validateExpiry now = .ok () →
      ((∃ outcome,
          createStandardPaymentLink adapter request providerAccountId now exchange =
            .ok outcome ∧ CreateSound request exchange outcome) ↔ CreateReads exchange)) ∧
    (∀ paymentLinkId exchange, isPaymentLinkId paymentLinkId = true →
      ((∃ outcome, cancelPaymentLink adapter paymentLinkId providerAccountId exchange =
            .ok outcome ∧ CancelSound paymentLinkId exchange outcome) ↔ CancelReads exchange)) ∧
    ∀ referenceId exchange result,
      lookupPaymentLinks adapter referenceId providerAccountId exchange = .ok result →
      result.completed = true → Lists referenceId exchange result.candidates ∧
        ∀ candidate ∈ result.candidates,
          candidate.get? "reference_id" = some (.str referenceId) := by
  refine ⟨fun request now exchange hexpiry => ?_, fun paymentLinkId exchange hid => ?_,
    fun referenceId exchange result hlookup hcompleted => ?_⟩
  · rw [createStandardPaymentLink_eq hpinned hexpiry]
    exact create_outcome_iff request exchange
  · rw [cancelPaymentLink_eq hpinned hid]
    exact cancel_outcome_iff paymentLinkId exchange
  · have hlists := lookup_completed hlookup hcompleted
    exact ⟨hlists, hlists.carries⟩

end

/-! ## An answer that is read, and one that is not -/

namespace Answers

/-- `json.loads` of bytes that are ASCII. -/
local instance asciiLoads : JsonLoads where
  loads content :=
    if content.data.toList.all (·.toNat < 128) then
      JsonDocument.loads 900
        (String.ofList (content.data.toList.map fun byte => Char.ofNat byte.toNat))
    else .error .decodeError

def account : String := "01K0000000000000000000000A"

def adapter : Adapter where
  providerAccountId := account

def request : StandardPaymentLinkRequest where
  amountMinor := 150000
  currency := "INR"
  referenceId := "rw-01K0000000000000000000000T"
  description := "Payment"
  expireByEpoch := 1767146400
  valid := by decide +kernel
  mapping := by exact List.nodup_nil

/-- The link that was asked for. -/
def link : Json :=
  .obj [("id", .str "plink_1"), ("reference_id", .str "rw-01K0000000000000000000000T"),
    ("amount", .int 150000), ("amount_paid", .int 0), ("currency", .str "INR"),
    ("accept_partial", .bool false), ("upi_link", .bool false), ("status", .str "created")]

def content : ByteArray := ⟨(link.render.map fun c => UInt8.ofNat c.toNat).toArray⟩

/-- A response of status 200. -/
def answered (content : ByteArray) (ending : Option HttpxError)
    (sent : ending ≠ some .poolTimeout) : HttpResponse where
  statusCode := 200
  contentLength := none
  contentType := some "application/json"
  chunks := [content]
  ending := ending
  sent := sent

theorem pinned : adapter.assertAccount account = .ok () := by decide +kernel

theorem expiry : request.validateExpiry sampleDeadline = .ok () := by
  have hepoch : epochSeconds sampleDeadline = 1767139320 := by decide
  have hlatest : sixCalendarMonthsAfter sampleDeadline = .ok 1782777720 := by decide
  have hexpire : request.expireByEpoch = 1767146400 := rfl
  simp only [RequestFields.validateExpiry, hepoch, hexpire, bind_ok_iff, raiseIf_ok_iff]
  exact ⟨(), by decide, (), by decide, _, hlatest, by decide⟩

theorem readExchange_answered {content : ByteArray} (hsize : content.size ≤ maxResponseBytes) :
    readExchange (.ok (answered content none nofun)) =
      .ok ⟨200, some "application/json", content⟩ := by
  have hfits : ¬content.size > maxResponseBytes := Nat.not_lt.mpr hsize
  have hchunks : readChunks ByteArray.empty none [content] = .ok content := by
    rw [readChunks, ByteArray.empty_append, bind_of_ok (raiseIf_of_not _ hfits)]
    rfl
  show readChunks ByteArray.empty none [content] >>= _ = _
  rw [hchunks]
  rfl

theorem readExchange_content : readExchange (.ok (answered content none nofun)) =
    .ok ⟨200, some "application/json", content⟩ :=
  readExchange_answered (by decide +kernel)

/-- Bytes that are the ASCII characters of a text. -/
theorem asciiLoads_eq {content : ByteArray} {text : List Char}
    (hascii : content.data.toList.all (·.toNat < 128) = true)
    (htext : content.data.toList.map (fun byte => Char.ofNat byte.toNat) = text) :
    asciiLoads.loads content = JsonDocument.loads 900 (String.ofList text) := by
  rw [← htext]
  exact if_pos hascii

theorem loads_content : ∃ read, asciiLoads.loads content = .ok read := by
  have hskip := Loads.skip_render link []
  have hlength : link.render.length = 171 := by decide +kernel
  rw [List.append_nil] at hskip
  rw [asciiLoads_eq (by decide +kernel) (by decide +kernel : _ = link.render),
    JsonDocument.loads, String.toList_ofList, hskip, hlength]
  exact exists_ok_of_isSome (by decide +kernel)

theorem createReads : CreateReads (.ok (answered content none nofun)) := by
  have hread := readExchange_content
  refine ⟨?_, fun response hresponse => ⟨fun _ => ?_, fun hrejected => ?_⟩⟩
  · rw [hread]
    exact nofun
  · obtain rfl := Except.ok.inj (hread.symm.trans hresponse)
    rintro ⟨-, -, e, hraised, -⟩
    obtain ⟨read, hloads⟩ := loads_content
    exact nomatch hloads.symm.trans hraised
  · obtain rfl := Except.ok.inj (hread.symm.trans hresponse)
    exact absurd hrejected (by decide)

/-- The link that was asked for comes back: an outcome, and no failure. -/
theorem create_ends : ∃ outcome,
    createStandardPaymentLink adapter request account sampleDeadline
      (.ok (answered content none nofun)) = .ok outcome ∧
    outcome.status ≠ .certainFailure := by
  obtain ⟨outcome, hmade, hsound⟩ :=
    ((provider_writes adapter account pinned).1 request sampleDeadline
      (.ok (answered content none nofun)) expiry).mpr createReads
  refine ⟨outcome, hmade, fun hfailed => ?_⟩
  rcases hsound.failure.mp hfailed with hpool | ⟨response, hresponse, hrejected, -⟩
  · exact nomatch readExchange_content.symm.trans hpool
  · obtain rfl := Except.ok.inj (readExchange_content.symm.trans hresponse)
    exact absurd hrejected (by decide)

/-- A body that is no gzip, as its headers have it: the request is sent, and both writes raise. -/
theorem decoding_escapes : request.validateExpiry sampleDeadline = .ok () ∧
    (∀ outcome, createStandardPaymentLink adapter request account sampleDeadline
      (.ok (answered ByteArray.empty (some .decoding) nofun)) ≠ .ok outcome) ∧
    ∀ outcome, cancelPaymentLink adapter "plink_1" account
      (.ok (answered ByteArray.empty (some .decoding) nofun)) ≠ .ok outcome := by
  have hid : isPaymentLinkId "plink_1" = true := by decide +kernel
  have hread : readExchange (.ok (answered ByteArray.empty (some .decoding) nofun)) =
      .error (.httpx .decoding) := rfl
  refine ⟨expiry, fun outcome hmade => ?_, fun outcome hmade => ?_⟩
  · rw [createStandardPaymentLink_eq pinned expiry, settleExchange, hread] at hmade
    exact nomatch hmade
  · rw [cancelPaymentLink_eq pinned hid, settleCancelExchange, hread] at hmade
    exact nomatch hmade

end Answers

end Retrywise.ControlPlane.Razorpay

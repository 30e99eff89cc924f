/-
# `Workplan.Proofs.Journal.Codec` — events read back from their lines

The object of an event determines the event (`ofJson?_toJson`), and the text of the object
determines the object as soon as the durations in it read back.  So an event whose durations do
(`Storable`) is read back from its text, with every field (`ofText?_text`).
-/
import Workplan.Journal.Codec
import Workplan.Proofs.Json.Printer
import Workplan.Proofs.Json.RoundTrip

namespace Workplan

/-! ## Fields -/

namespace Number

theorem toUInt64?_ofUInt64 (n : UInt64) : (ofUInt64 n).toUInt64? = some n := by
  simp only [ofUInt64, toUInt64?, Int.natCast_nonneg, if_true, Int.toNat_natCast]
  exact congrArg some UInt64.ofNat_toNat

theorem toUInt32?_ofUInt32 (n : UInt32) : (ofUInt32 n).toUInt32? = some n := by
  have hlt : (n.toNat : Int) < 0x100000000 := by
    have := n.toNat_lt
    omega
  have hrange :
      (decide (0 ≤ (n.toNat : Int)) && decide ((n.toNat : Int) < 0x100000000)) = true := by
    rw [decide_eq_true (Int.natCast_nonneg _), decide_eq_true hlt]
    rfl
  simp only [ofUInt32, toUInt32?, hrange, if_true, Int.toNat_natCast]
  exact congrArg some UInt32.ofNat_toNat

end Number

theorem Json.mapM_asString? (ss : List String) :
    (ss.map Json.str).mapM Json.asString? = some ss := by
  induction ss with
  | nil => rfl
  | cons s ss ih => simp [ih, Json.asString?]

namespace RunEvent

/-- The durations that an event holds. -/
def durations : RunEvent → List Binary64
  | .stepSucceeded _ _ duration _ => [duration]
  | .runCompleted _ _ _ _ total => [total]
  | _ => []

/-- Counts are any numbers here: those of a given word would be computed by the kernel. -/
theorem ofFields?_runCompleted (run target : String) (total : Binary64) {s f : Number}
    {succeeded failed : UInt32} (hs : s.toUInt32? = some succeeded)
    (hf : f.toUInt32? = some failed) :
    ofFields? "run_completed" [("run_id", .str run), ("target", .str target), ("succeeded", .num s),
      ("failed", .num f), ("total_seconds", .num (.real total))] =
        some (.runCompleted run target succeeded failed total) := by
  simp [ofFields?, string?, number?, single?, hs, hf, Number.toBinary64?]

theorem ofFields?_fields (e : RunEvent) : ofFields? e.name e.fields = some e := by
  cases e with
  | runStarted run target planHash steps =>
      simp [ofFields?, name, fields, string?, number?, single?, Number.toUInt64?_ofUInt64]
  | stepStarted run unit version => simp [ofFields?, name, fields, string?, single?]
  | stepSucceeded run unit duration outputs =>
      simp [ofFields?, name, fields, string?, number?, strings?, single?, Json.ofStrings,
        Json.mapM_asString?, Number.toBinary64?, -List.mapM_map]
  | stepFailed run unit state error =>
      simp [ofFields?, name, fields, string?, state?, single?, StepState.ofName?_name]
  | runCompleted run target succeeded failed total =>
      exact ofFields?_runCompleted run target total (Number.toUInt32?_ofUInt32 succeeded)
        (Number.toUInt32?_ofUInt32 failed)

theorem ofObject?_fields (e : RunEvent) :
    ofObject? (("event", .str e.name) :: e.fields) = some e := by
  have htag : single? "event" (("event", .str e.name) :: e.fields) = some (.str e.name) := by
    cases e <;> simp [single?, fields]
  have hothers : (("event", .str e.name) :: e.fields).filter (fun f => f.1 != "event") =
      e.fields := by
    cases e <;> simp [fields]
  simp only [ofObject?, htag, hothers, tag?, bind, Option.bind, ofFields?_fields]

end RunEvent

namespace TimedEvent

/-- The durations of an event read back from their text. -/
def Storable (e : TimedEvent) : Prop := ∀ x ∈ e.event.durations, x.ReadsBack

theorem ofJson?_toJson (e : TimedEvent) : ofJson? e.toJson = some e := by
  obtain ⟨time, event⟩ := e
  have htime : RunEvent.string? "ts" (("ts", .str time) :: ("event", .str event.name) ::
      event.fields) = some time := by
    cases event <;> simp [RunEvent.string?, RunEvent.single?, RunEvent.fields]
  have hothers : (("ts", Json.str time) :: ("event", .str event.name) :: event.fields).filter
      (fun f => f.1 != "ts") = ("event", .str event.name) :: event.fields := by
    cases event <;> simp [RunEvent.fields]
  simp only [toJson, ofJson?, htime, hothers, RunEvent.ofObject?_fields, bind, Option.bind]

theorem readableItems_ofStrings (depth : Nat) (ss : List String) :
    Json.ReadableItems depth (ss.map .str) := by
  induction ss with
  | nil => trivial
  | cons s ss ih => exact ⟨trivial, ih⟩

theorem readable_toJson {e : TimedEvent} (h : e.Storable) : e.toJson.Readable Json.maxDepth := by
  obtain ⟨time, event⟩ := e
  refine ⟨126, rfl, trivial, trivial, ?_⟩
  cases event with
  | runStarted run target planHash steps =>
      exact ⟨trivial, trivial, trivial, Number.readsBack_ofUInt64 steps, trivial⟩
  | stepStarted run unit version => exact ⟨trivial, trivial, trivial, trivial⟩
  | stepSucceeded run unit duration outputs =>
      exact ⟨trivial, trivial, h duration List.mem_cons_self,
        ⟨125, rfl, readableItems_ofStrings 125 outputs⟩, trivial⟩
  | stepFailed run unit state error => exact ⟨trivial, trivial, trivial, trivial, trivial⟩
  | runCompleted run target succeeded failed total =>
      exact ⟨trivial, trivial, Number.readsBack_ofUInt32 succeeded,
        Number.readsBack_ofUInt32 failed, h total List.mem_cons_self, trivial⟩

theorem ofText?_text {e : TimedEvent} (h : e.Storable) : ofText? e.text = some e := by
  rw [ofText?, text, Json.parseDocument_compact (readable_toJson h), Option.bind_some,
    ofJson?_toJson]

theorem notMem_text (e : TimedEvent) {c : Char} (hc : ¬Json.Visible c) : c ∉ e.text.toList :=
  Json.notMem_compact e.toJson hc

end TimedEvent

end Workplan

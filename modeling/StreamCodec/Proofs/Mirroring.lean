import StreamCodec.Proofs.Decoding
import StreamCodec.Proofs.Encoding
import StreamCodec.Proofs.Gzip.Packing

/-!
An engine that does what another does, on states that hold more. The engines over it, and the
sessions, do what they do over the other.
-/

namespace StreamCodec

variable {σ τ : Type} {f : τ → σ} {F : EncodeEngine τ} {E : EncodeEngine σ}

/-- `F` gives the answers of `E`, and `f` takes its states to those of `E`. -/
structure EncodeEngine.Mirrors (f : τ → σ) (F : EncodeEngine τ) (E : EncodeEngine σ) : Prop where
  codec : F.codec = E.codec
  call : ∀ request t input room,
    E.call request (f t) input room =
      ((F.call request t input room).1, f (F.call request t input room).2)

namespace EncodeEngine

theorem Mirrors.call_ok (h : Mirrors f F E) {request : Request} {t t' : τ} {input : Slice}
    {room : Nat} {step : Step} (hcall : F.call request t input room = (.ok step, t')) :
    E.call request (f t) input room = (.ok step, f t') := by
  rw [h.call, hcall]

/-- A state that one engine reaches goes with one that the other reaches. -/
theorem Reached.map (h : Mirrors f F E) {t₀ : τ} {P : Permits} {stage : Stage}
    {taken written : ByteArray} {t : τ} (hreach : F.Reached t₀ P stage taken written t) :
    E.Reached (f t₀) P stage taken written (f t) := by
  induction hreach with
  | fresh => exact .fresh
  | @call stage taken written s s' request input room step _ hallows hpermits hcall hwithin ih =>
    exact .call ih hallows hpermits (h.call_ok hcall) hwithin

end EncodeEngine

namespace Gzip.Encoder

def map (f : τ → σ) (t : Encoder τ) : Encoder σ where
  header := t.header
  body := f t.body
  tally := t.tally
  trailer := t.trailer

open EncodeEngine

theorem encode_map (h : Mirrors f F E) (t : Encoder τ) (input : Slice) (room : Nat) :
    (map f t).encode E input room =
      ((t.encode F input room).1, map f (t.encode F input room).2) := by
  cases hleft : (t.behindHead room).isEmpty with
  | false =>
    have hleft' : ((map f t).behindHead room).isEmpty = false := hleft
    rw [encode_of_header hleft, encode_of_header hleft']
    rfl
  | true =>
    have hleft' : ((map f t).behindHead room).isEmpty = true := hleft
    rw [encode_of_body F input hleft, encode_of_body E input hleft']
    have hbody := h.call .encode t.body input (room - (t.head room).size)
    change E.call .encode (map f t).body input (room - ((map f t).head room).size) = _ at hbody
    rw [hbody]
    rcases F.call .encode t.body input (room - (t.head room).size) with ⟨answer, body⟩
    cases answer <;> rfl

theorem finish_map (h : Mirrors f F E) (t : Encoder τ) (input : Slice) (room : Nat) :
    (map f t).finish E input room =
      ((t.finish F input room).1, map f (t.finish F input room).2) := by
  cases hleft : (t.behindHead room).isEmpty with
  | false =>
    have hleft' : ((map f t).behindHead room).isEmpty = false := hleft
    rw [finish_of_header hleft, finish_of_header hleft']
    rfl
  | true =>
    have hleft' : ((map f t).behindHead room).isEmpty = true := hleft
    cases htrailer : t.trailer with
    | some left =>
      have htrailer' : (map f t).trailer = some left := htrailer
      rw [finish_of_trailer hleft htrailer, finish_of_trailer hleft' htrailer']
      rfl
    | none =>
      have htrailer' : (map f t).trailer = none := htrailer
      rw [finish_of_body F input hleft htrailer, finish_of_body E input hleft' htrailer']
      have hbody := h.call .finish t.body input (room - (t.head room).size)
      change E.call .finish (map f t).body input (room - ((map f t).head room).size) = _ at hbody
      rw [hbody]
      rcases F.call .finish t.body input (room - (t.head room).size) with ⟨answer, body⟩
      cases answer with
      | ok step =>
        cases hdone : step.done with
        | true =>
          simp only [hdone, if_true]
          rfl
        | false =>
          simp only [hdone, if_neg Bool.false_ne_true]
          rfl
      | error e => rfl
      | trap t => rfl

theorem mirrors (h : Mirrors f F E) : Mirrors (map f) (engine F) (engine E) where
  codec := rfl
  call := by
    intro request
    cases request with
    | encode => exact encode_map h
    | finish => exact finish_map h

end Gzip.Encoder

namespace Encoder

def map (f : τ → σ) (t : Encoder τ) : Encoder σ where
  engine := f t.engine
  ledger := t.ledger
  finished := t.finished

open EncodeEngine

theorem run_map (h : Mirrors f F E) (engine : τ) (l : Ledger) (room : Nat) (out : ByteArray) :
    run E (f engine) l room out =
      ((run F engine l room out).1, map f (run F engine l room out).2) := by
  have hcall (engine : τ) (l : Ledger) (room : Nat) :
      E.encode (f engine) l.pending.remaining room =
        ((F.encode engine l.pending.remaining room).1,
          f (F.encode engine l.pending.remaining room).2) :=
    h.call .encode engine l.pending.remaining room
  fun_induction run F engine l room out with
  | case1 engine l room out e engine' hanswer | case2 engine l room out t engine' hanswer =>
    rw [run_eq, hcall, hanswer]
    rfl
  | case3 engine l room out step engine' hanswer e hbook
  | case4 engine l room out step engine' hanswer t hbook =>
    rw [run_eq, hcall, hanswer]
    simp only [hbook, map]
  | case5 engine l out step engine' l' hanswer hbook =>
    rw [run_eq, hcall, hanswer]
    simp only [hbook, if_true, map]
  | case6 engine l room out step engine' hanswer l' hbook hfull hidle =>
    rw [run_eq, hcall, hanswer]
    simp only [hbook, if_neg hfull, if_pos hidle, map]
  | case7 engine l room out step engine' hanswer l' hbook hfull hidle ih =>
    rw [run_eq, hcall, hanswer]
    simp only [hbook, if_neg hfull, if_neg hidle]
    exact ih

theorem conclude_map (h : Mirrors f F E) (engine : τ) (l : Ledger) (room : Nat) (out : ByteArray) :
    conclude E (f engine) l room out =
      ((conclude F engine l room out).1, map f (conclude F engine l room out).2) := by
  have hcall (engine : τ) (l : Ledger) (room : Nat) :
      E.finish (f engine) l.pending.remaining room =
        ((F.finish engine l.pending.remaining room).1,
          f (F.finish engine l.pending.remaining room).2) :=
    h.call .finish engine l.pending.remaining room
  fun_induction conclude F engine l room out with
  | case1 engine l room out e engine' hanswer | case2 engine l room out t engine' hanswer =>
    rw [conclude_eq, hcall, hanswer]
    rfl
  | case3 engine l room out step engine' hanswer e hbook
  | case4 engine l room out step engine' hanswer t hbook =>
    rw [conclude_eq, hcall, hanswer]
    simp only [hbook, map]
  | case5 engine l room out step engine' hanswer l' hbook hdone =>
    rw [conclude_eq, hcall, hanswer]
    simp only [hbook, if_pos hdone, map]
  | case6 engine l out step engine' l' hdone hanswer hbook =>
    rw [conclude_eq, hcall, hanswer]
    simp only [hbook, if_neg hdone, if_true, map]
  | case7 engine l room out step engine' hanswer l' hbook hdone hfull hidle =>
    rw [conclude_eq, hcall, hanswer]
    simp only [hbook, if_neg hdone, if_neg hfull, if_pos hidle, h.codec, map]
  | case8 engine l room out step engine' hanswer l' hbook hdone hfull hidle ih =>
    rw [conclude_eq, hcall, hanswer]
    simp only [hbook, if_neg hdone, if_neg hfull, if_neg hidle]
    exact ih

theorem compressInto_map (h : Mirrors f F E) (t : Encoder τ) (input : ByteArray) (room : Nat) :
    compressInto E (map f t) input room =
      ((compressInto F t input room).1, map f (compressInto F t input room).2) := by
  obtain ⟨engine, ledger, finished⟩ := t
  cases finished with
  | true =>
    by_cases hempty : input.size = 0
    · simp only [compressInto, map, if_true, if_pos hempty]
    · simp only [compressInto, map, if_true, if_neg hempty, h.codec]
  | false =>
    cases haccept : ledger.pending.accept F.codec input with
    | ok q =>
      simp only [compressInto, map, if_neg Bool.false_ne_true, ← h.codec, haccept]
      exact run_map h engine _ room _
    | error e => simp only [compressInto, map, if_neg Bool.false_ne_true, ← h.codec, haccept]
    | trap t => simp only [compressInto, map, if_neg Bool.false_ne_true, ← h.codec, haccept]

theorem finishInto_map (h : Mirrors f F E) (t : Encoder τ) (room : Nat) :
    finishInto E (map f t) room = ((finishInto F t room).1, map f (finishInto F t room).2) := by
  obtain ⟨engine, ledger, finished⟩ := t
  cases finished with
  | true => rfl
  | false => exact conclude_map h engine ledger room ByteArray.empty

end Encoder

structure DecodeEngine.Mirrors (f : τ → σ) (F : DecodeEngine τ) (E : DecodeEngine σ) : Prop where
  codec : F.codec = E.codec
  decode : ∀ t input room,
    E.decode (f t) input room = ((F.decode t input room).1, f (F.decode t input room).2)

namespace Decoder

variable {F : DecodeEngine τ} {E : DecodeEngine σ}

def map (f : τ → σ) (t : Decoder τ) : Decoder σ where
  engine := f t.engine
  ledger := t.ledger
  finished := t.finished

open DecodeEngine

theorem run_map (h : Mirrors f F E) (engine : τ) (l : Ledger) (room : Nat) (out : ByteArray) :
    run E (f engine) l room out =
      ((run F engine l room out).1, map f (run F engine l room out).2) := by
  fun_induction run F engine l room out with
  | case1 engine l room out e engine' hanswer | case2 engine l room out t engine' hanswer =>
    rw [run_eq, h.decode, hanswer]
    rfl
  | case3 engine l room out step engine' hanswer e hbook
  | case4 engine l room out step engine' hanswer t hbook =>
    rw [run_eq, h.decode, hanswer]
    simp only [hbook, map]
  | case5 engine l room out step engine' hanswer l' hbook hdone =>
    rw [run_eq, h.decode, hanswer]
    simp only [hbook, if_pos hdone, map]
  | case6 engine l out step engine' l' hdone hanswer hbook =>
    rw [run_eq, h.decode, hanswer]
    simp only [hbook, if_neg hdone, if_true, map]
  | case7 engine l room out step engine' hanswer l' hbook hdone hfull hidle =>
    rw [run_eq, h.decode, hanswer]
    simp only [hbook, if_neg hdone, if_neg hfull, if_pos hidle, map]
  | case8 engine l room out step engine' hanswer l' hbook hdone hfull hidle ih =>
    rw [run_eq, h.decode, hanswer]
    simp only [hbook, if_neg hdone, if_neg hfull, if_neg hidle]
    exact ih

theorem decompressInto_map (h : Mirrors f F E) (t : Decoder τ) (input : ByteArray) (room : Nat) :
    decompressInto E (map f t) input room =
      ((decompressInto F t input room).1, map f (decompressInto F t input room).2) := by
  obtain ⟨engine, ledger, finished⟩ := t
  cases haccept : ledger.pending.accept F.codec input with
  | ok q =>
    simp only [decompressInto, map, ← h.codec, haccept]
    cases finished with
    | true => rfl
    | false => exact run_map h engine _ room _
  | error e => simp only [decompressInto, map, ← h.codec, haccept]
  | trap t => simp only [decompressInto, map, ← h.codec, haccept]

end Decoder

end StreamCodec

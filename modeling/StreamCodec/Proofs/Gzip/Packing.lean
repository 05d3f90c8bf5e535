import StreamCodec.Gzip.Encoder
import StreamCodec.Proofs.Adapting
import StreamCodec.Proofs.Gzip.Member

/-!
The gzip encoder writes members. At every moment it has written a front of the header, then
what the body engine has written, then a front of the trailer, and a part is begun only when
the one before it is out.
-/

namespace StreamCodec.Gzip.Encoder

open EncodeEngine

variable {σ : Type} {E : EncodeEngine σ} {s₀ : σ} {Q : Request → ByteArray → Prop} {level : Level}

/-- How an encoder stands that has taken `taken` and written `written`. -/
inductive Holds (E : EncodeEngine σ) (s₀ : σ) (Q : Request → ByteArray → Prop) (level : Level) :
    Stage → Encoder σ → (taken written : ByteArray) → Prop
  | body {stage inner : Stage} {state : σ} {rest : Slice} {sent taken body : ByteArray}
      (hstage : stage ≠ .ended) (hinner : inner.Within stage)
      (hbody : E.Reached s₀ (Offers Q) inner taken body state)
      (hsplit : sent ++ rest.toBytes = Header.written level)
      (hfresh : 0 < rest.size → inner = .feeding ∧ taken = ByteArray.empty ∧
        body = ByteArray.empty ∧ state = s₀) :
      Holds E s₀ Q level stage { header := rest, body := state, tally := Tally.ofBytes taken } taken
        (sent ++ body)
  | trailer {stage : Stage} {state : σ} {rest left : Slice} {behind sent taken body : ByteArray}
      (hstage : stage = if left.isEmpty then .ended else .closing behind)
      (hbehind : E.EndsTaken s₀ Q → behind = ByteArray.empty)
      (hbody : E.Reached s₀ (Offers Q) .ended taken body state) (hrest : rest.size = 0)
      (hsplit : sent ++ left.toBytes = (Tally.ofBytes taken).trailer) :
      Holds E s₀ Q level stage
        { header := rest, body := state, tally := Tally.ofBytes taken, trailer := some left } taken
        (Header.written level ++ (body ++ sent))

section Calls

variable {s : Encoder σ} {input : Slice} {room : Nat}

def head (s : Encoder σ) (room : Nat) : ByteArray := s.header.take room

def behindHead (s : Encoder σ) (room : Nat) : Slice := s.header.drop (s.head room).size

def ahead (s : Encoder σ) (room : Nat) : Encoder σ := { s with header := s.behindHead room }

theorem encode_of_header (h : (s.behindHead room).isEmpty = false) :
    s.encode E input room = (.ok (.progress 0 (s.head room)), s.ahead room) :=
  if_pos (by rw [Bool.not_eq_true']; exact h)

theorem finish_of_header (h : (s.behindHead room).isEmpty = false) :
    s.finish E input room = (.ok (.progress 0 (s.head room)), s.ahead room) :=
  if_pos (by rw [Bool.not_eq_true']; exact h)

theorem encode_of_body (E : EncodeEngine σ) (input : Slice)
    (h : (s.behindHead room).isEmpty = true) :
    s.encode E input room =
      match E.call .encode s.body input (room - (s.head room).size) with
      | (.ok step, body) =>
        (.ok (.progress step.consumed (s.head room ++ step.output)),
          (s.ahead room).putBody body input step)
      | (.error e, body) => (.error e, { s.ahead room with body })
      | (.trap t, body) => (.trap t, { s.ahead room with body }) :=
  if_neg (by rw [Bool.not_eq_true', Bool.not_eq_false]; exact h)

theorem finish_of_body (E : EncodeEngine σ) (input : Slice) (h : (s.behindHead room).isEmpty = true)
    (htrailer : s.trailer = none) :
    s.finish E input room =
      match E.call .finish s.body input (room - (s.head room).size) with
      | (.ok step, body) =>
        if step.done then
          ((s.ahead room).putBody body input step).putTrailer step.consumed
            (s.head room ++ step.output)
            { bytes := ((s.ahead room).putBody body input step).tally.trailer } room
        else
          (.ok (.progress step.consumed (s.head room ++ step.output)),
            (s.ahead room).putBody body input step)
      | (.error e, body) => (.error e, { s.ahead room with body })
      | (.trap t, body) => (.trap t, { s.ahead room with body }) := by
  obtain ⟨header, state, tally, trailer⟩ := s
  cases htrailer
  exact if_neg (by rw [Bool.not_eq_true', Bool.not_eq_false]; exact h)

theorem finish_of_trailer (h : (s.behindHead room).isEmpty = true) {left : Slice}
    (htrailer : s.trailer = some left) :
    s.finish E input room = (s.ahead room).putTrailer 0 (s.head room) left room := by
  obtain ⟨header, state, tally, trailer⟩ := s
  cases htrailer
  exact if_neg (by rw [Bool.not_eq_true', Bool.not_eq_false]; exact h)

end Calls

/-- While there is header left, nothing of the body is out. -/
theorem sent_append {rest : Slice} {body : ByteArray} (h : 0 < rest.size → body = ByteArray.empty)
    (sent out : ByteArray) (room : Nat) :
    sent ++ body ++ (rest.take room ++ out) = sent ++ rest.take room ++ (body ++ out) := by
  by_cases hrest : 0 < rest.size
  · rw [h hrest, ByteArray.append_empty, ByteArray.empty_append, ByteArray.append_assoc]
  · rw [Slice.take_of_size_eq_zero (by omega), ByteArray.empty_append, ByteArray.append_empty,
      ByteArray.append_assoc]

variable {stage : Stage} {s s' : Encoder σ} {taken written : ByteArray} {input : Slice}
  {room : Nat} {step : Step}

/-- A call that hands out header only leaves the rest as it is. -/
theorem Holds.ahead {inner : Stage} {state : σ} {rest : Slice} {sent body : ByteArray}
    (hstage : stage ≠ .ended)
    (hinner : inner.Within stage) (hbody : E.Reached s₀ (Offers Q) inner taken body state)
    (hsplit : sent ++ rest.toBytes = Header.written level)
    (hfresh : 0 < rest.size → inner = .feeding ∧ taken = ByteArray.empty ∧
      body = ByteArray.empty ∧ state = s₀) :
    Holds E s₀ Q level stage
      { header := rest.drop (rest.take room).size, body := state, tally := Tally.ofBytes taken }
      taken (sent ++ body ++ rest.take room) := by
  have hsent := sent_append (fun h => (hfresh h).2.2.1) sent ByteArray.empty room
  rw [ByteArray.append_empty, ByteArray.append_empty] at hsent
  rw [hsent]
  refine .body hstage hinner hbody ?_ fun hleft => hfresh ?_
  · rw [ByteArray.append_assoc, Slice.take_append_rest, hsplit]
  · rw [Slice.size_drop] at hleft
    omega

/-- A call that is through with the header moves on to the body. -/
theorem Holds.behind {state : σ} {rest : Slice} {sent body more out : ByteArray}
    (hstage : stage ≠ .ended)
    (hbody : E.Reached s₀ (Offers Q) stage (taken ++ more) (body ++ out) state)
    (hsplit : sent ++ rest.toBytes = Header.written level)
    (hfresh : 0 < rest.size → body = ByteArray.empty)
    (hleft : (rest.drop (rest.take room).size).isEmpty = true) :
    Holds E s₀ Q level stage
      { header := rest.drop (rest.take room).size, body := state,
        tally := (Tally.ofBytes taken).add more }
      (taken ++ more) (sent ++ body ++ (rest.take room ++ out)) := by
  rw [sent_append hfresh, ← Tally.ofBytes_append]
  refine .body hstage (.refl _) hbody ?_ fun hrest => ?_
  · rw [ByteArray.append_assoc, Slice.take_append_rest, hsplit]
  · rw [Slice.isEmpty_iff] at hleft
    omega

/-- A step inside keeps within what is left of the room behind the header. -/
theorem within_inside {inner : Step} {head : ByteArray} (h : step.Within input.size room)
    (hconsumed : step.consumed = inner.consumed)
    (hout : (head ++ inner.output).size ≤ step.output.size) :
    inner.Within input.size (room - head.size) := by
  obtain ⟨hinput, hroom⟩ := h
  rw [ByteArray.size_append] at hout
  exact ⟨by omega, by omega⟩

theorem Holds.encode (h : Holds E s₀ Q level stage s taken written)
    (hallows : stage.Allows .encode input.toBytes)
    (hpermits : Q .encode (taken ++ input.toBytes)) (hcall : s.encode E input room = (.ok step, s'))
    (hwithin : step.Within input.size room) :
    Holds E s₀ Q level .feeding s' (taken ++ input.take step.consumed)
      (written ++ step.output) := by
  cases Stage.eq_feeding hallows
  cases h with
  | trailer hstage => split at hstage <;> cases hstage
  | @body inner state rest sent taken body hstage hinner hbody hsplit hfresh =>
    cases hleft : (behindHead
      { header := rest, body := state, tally := Tally.ofBytes taken } room).isEmpty with
    | false =>
      rw [encode_of_header hleft] at hcall
      cases hcall
      rw [Step.progress, Slice.take_zero, ByteArray.append_empty]
      exact Holds.ahead hstage hinner hbody hsplit hfresh
    | true =>
      rw [encode_of_body E input hleft] at hcall
      rcases hstep : E.call .encode state input (room - (rest.take room).size) with ⟨answer, state'⟩
      simp only [head, hstep] at hcall
      cases answer with
      | ok bodyStep =>
        cases hcall
        have hinside : bodyStep.Within input.size (room - (rest.take room).size) :=
          within_inside hwithin rfl (Nat.le_refl _)
        have hbody' := Reached.call hbody (hinner.allows hallows) hpermits hstep hinside
        exact Holds.behind hstage hbody' hsplit (fun h => (hfresh h).2.2.1) hleft
      | error e => cases hcall
      | trap t => cases hcall

theorem putTrailer_eq_ok {out : ByteArray} {left : Slice} {consumed : Nat}
    (h : s.putTrailer consumed out left room = (.ok step, s')) :
    step.consumed = consumed ∧ step.output = out ++ left.take (room - out.size) ∧
      step.done = (left.drop (left.take (room - out.size)).size).isEmpty ∧
      s' = { s with trailer := some (left.drop (left.take (room - out.size)).size) } := by
  cases h
  exact ⟨rfl, rfl, rfl, rfl⟩

/-- A call that hands out trailer. What the body has not taken is left behind. -/
theorem Holds.trailing (level : Level) {state : σ} {rest left : Slice} {sent body : ByteArray}
    (hbody : E.Reached s₀ (Offers Q) .ended taken body state) (hrest : rest.size = 0) (n : Nat)
    (hsplit : sent ++ left.toBytes = (Tally.ofBytes taken).trailer)
    (hbehind : E.EndsTaken s₀ Q → (input.drop step.consumed).toBytes = ByteArray.empty)
    (hdone : step.done = (left.drop (left.take n).size).isEmpty) :
    Holds E s₀ Q level (Stage.after input step .finish)
      { header := rest, body := state, tally := Tally.ofBytes taken,
        trailer := some (left.drop (left.take n).size) } taken
      (Header.written level ++ (body ++ (sent ++ left.take n))) := by
  refine .trailer ?_ hbehind hbody hrest ?_
  · rw [Stage.after, hdone]
  · rw [ByteArray.append_assoc, Slice.take_append_rest, hsplit]

/-- The call at which the body ends begins the trailer. -/
theorem Holds.ending {state : σ} {rest : Slice} {sent body out : ByteArray} {consumed : Nat}
    (hbody : E.Reached s₀ (Offers Q) .ended (taken ++ input.take consumed) (body ++ out) state)
    (hsplit : sent ++ rest.toBytes = Header.written level)
    (hfresh : 0 < rest.size → body = ByteArray.empty)
    (hleft : (rest.drop (rest.take room).size).isEmpty = true)
    (hall : E.EndsTaken s₀ Q → consumed = input.size)
    (hcall : Encoder.putTrailer
      { header := rest.drop (rest.take room).size, body := state,
        tally := (Tally.ofBytes taken).add (input.take consumed) }
      consumed (rest.take room ++ out)
        { bytes := ((Tally.ofBytes taken).add (input.take consumed)).trailer } room =
        (.ok step, s')) :
    Holds E s₀ Q level (Stage.after input step .finish) s' (taken ++ input.take step.consumed)
      (sent ++ body ++ step.output) := by
  have hrest : (rest.drop (rest.take room).size).size = 0 := Slice.isEmpty_iff.mp hleft
  have hheader : sent ++ rest.take room = Header.written level := by
    rw [← hsplit, ← Slice.take_append_rest rest room, Slice.toBytes_of_size_eq_zero hrest,
      ByteArray.append_empty]
  rw [← Tally.ofBytes_append] at hcall
  obtain ⟨hconsumed, houtput, hdone, rfl⟩ := putTrailer_eq_ok hcall
  have hbehind : E.EndsTaken s₀ Q → (input.drop step.consumed).toBytes = ByteArray.empty := by
    intro hends
    rw [hconsumed, hall hends]
    exact Slice.toBytes_of_size_eq_zero (by rw [Slice.size_drop, Nat.sub_self])
  have hnext := Holds.trailing level hbody hrest (room - (rest.take room ++ out).size)
    (ByteArray.empty_append.trans (Slice.toBytes_mk _)) hbehind hdone
  rw [hconsumed, houtput, ByteArray.append_assoc (a := rest.take room), sent_append hfresh, hheader]
  rw [ByteArray.empty_append, ByteArray.append_assoc] at hnext
  exact hnext

/-- Behind the header nothing of it is handed out. -/
theorem behindHead_of_size_eq_zero (h : s.header.size = 0) (room : Nat) :
    s.head room = ByteArray.empty ∧ (s.behindHead room).isEmpty = true := by
  refine ⟨Slice.take_of_size_eq_zero h room, Slice.isEmpty_iff.mpr ?_⟩
  rw [behindHead, Slice.size_drop, h, Nat.zero_sub]

theorem Holds.finish (h : Holds E s₀ Q level stage s taken written)
    (hallows : stage.Allows .finish input.toBytes) (hpermits : Q .finish (taken ++ input.toBytes))
    (hcall : s.finish E input room = (.ok step, s')) (hwithin : step.Within input.size room) :
    Holds E s₀ Q level (Stage.after input step .finish) s' (taken ++ input.take step.consumed)
      (written ++ step.output) := by
  cases h with
  | @body inner state rest sent taken body hstage hinner hbody hsplit hfresh =>
    cases hleft : (behindHead
      { header := rest, body := state, tally := Tally.ofBytes taken } room).isEmpty with
    | false =>
      rw [finish_of_header hleft] at hcall
      cases hcall
      rw [Step.progress, Slice.take_zero, ByteArray.append_empty]
      exact Holds.ahead (fun h => by cases h) (hinner.closing hallows) hbody hsplit hfresh
    | true =>
      rw [finish_of_body E input hleft rfl] at hcall
      rcases hstep : E.call .finish state input (room - (rest.take room).size) with ⟨answer, state'⟩
      simp only [head, hstep] at hcall
      cases answer with
      | ok bodyStep =>
        have hbody' (hinside : bodyStep.Within input.size (room - (rest.take room).size)) :=
          Reached.call hbody (hinner.allows hallows) hpermits hstep hinside
        cases hdone : bodyStep.done with
        | true =>
          simp only [hdone, if_true] at hcall
          obtain ⟨hconsumed, houtput, -, -⟩ := putTrailer_eq_ok hcall
          have hout : (rest.take room ++ bodyStep.output).size ≤ step.output.size := by
            simp only [houtput, ByteArray.size_append]
            omega
          have hinside := within_inside hwithin hconsumed hout
          rw [Stage.after, hdone, if_pos rfl] at hbody'
          exact Holds.ending (hbody' hinside) hsplit (fun h => (hfresh h).2.2.1) hleft
            (fun hends => hends hbody (hinner.allows hallows) hstep hdone) hcall
        | false =>
          simp only [hdone, if_neg Bool.false_ne_true] at hcall
          cases hcall
          have hinside : bodyStep.Within input.size (room - (rest.take room).size) :=
            within_inside hwithin rfl (Nat.le_refl _)
          rw [Stage.after, hdone, if_neg Bool.false_ne_true] at hbody'
          exact Holds.behind (fun h => by cases h) (hbody' hinside) hsplit
            (fun h => (hfresh h).2.2.1) hleft
      | error e => cases hcall
      | trap t => cases hcall
  | @trailer state rest left behind sent taken body hstage hbehind hbody hrest hsplit =>
    subst hstage
    obtain ⟨hnone, hleft⟩ := behindHead_of_size_eq_zero
      (s := { header := rest, body := state, tally := Tally.ofBytes taken, trailer := some left })
        hrest room
    rw [finish_of_trailer hleft rfl] at hcall
    obtain ⟨hconsumed, houtput, hdone, rfl⟩ := putTrailer_eq_ok hcall
    have hsame : (input.drop step.consumed).toBytes = behind := by
      rw [hconsumed, Slice.drop_zero, (Stage.eq_of_owing hallows).2]
    have hnext := Holds.trailing level hbody (Slice.isEmpty_iff.mp hleft) _ hsplit
      (fun hends => hsame.trans (hbehind hends)) hdone
    rw [hconsumed, houtput, hnone, ByteArray.empty_append, Slice.take_zero, ByteArray.append_empty,
      ByteArray.append_assoc, ByteArray.append_assoc, ← hnone]
    exact hnext

theorem holds_of_reached
    (h : (engine E).Reached (start level s₀) (Offers Q) stage taken written s) :
    Holds E s₀ Q level stage s taken written := by
  induction h with
  | fresh =>
    have hfresh : Holds E s₀ Q level .feeding (start level s₀) ByteArray.empty
        (ByteArray.empty ++ ByteArray.empty) :=
      .body (fun h => by cases h) (.refl _) .fresh
        (ByteArray.empty_append.trans (Slice.toBytes_mk _))
        fun _ => ⟨rfl, rfl, rfl, rfl⟩
    rw [ByteArray.empty_append] at hfresh
    exact hfresh
  | @call _ _ _ _ _ request _ _ _ _ hallows hpermits hcall hwithin ih =>
    cases request with
    | encode => exact ih.encode hallows hpermits hcall hwithin
    | finish => exact ih.finish hallows hpermits hcall hwithin

/-- Until the header is out, the body engine has not been called. -/
theorem Holds.body_eq (h : Holds E s₀ Q level stage s taken written)
    (hsize : written.size < (Header.written level).size) : s.body = s₀ := by
  cases h with
  | body hstage hinner hbody hsplit hfresh =>
    refine (hfresh ?_).2.2.2
    have hsent := congrArg ByteArray.size hsplit
    rw [ByteArray.size_append, Slice.size_toBytes] at hsent
    rw [ByteArray.size_append] at hsize
    omega
  | trailer hstage hbehind hbody hrest hsplit =>
    rw [ByteArray.size_append] at hsize
    omega

/-- At the end header, body and trailer are out, and no more. -/
theorem Holds.ended (h : Holds E s₀ Q level .ended s taken written) :
    ∃ body, E.Reached s₀ (Offers Q) .ended taken body s.body ∧
      written = Header.written level ++ (body ++ (Tally.ofBytes taken).trailer) := by
  cases h with
  | body hstage => exact absurd rfl hstage
  | @trailer state rest left behind sent taken body hstage hbehind hbody hrest hsplit =>
    have hleft : left.size = 0 := by
      split at hstage
      · next hempty => exact Slice.isEmpty_iff.mp hempty
      · cases hstage
    rw [Slice.toBytes_of_size_eq_zero hleft, ByteArray.append_empty] at hsplit
    rw [← hsplit]
    exact ⟨body, hbody, rfl⟩

section Moves

/-- Handing out header keeps within the room and moves a byte. -/
theorem head_moves (h : (s.behindHead room).isEmpty = false) (input : Slice) (request : Request) :
    (Step.progress 0 (s.head room)).Within input.size room ∧
      (Step.progress 0 (s.head room)).Moves input room request := by
  have hmoves (hroom : 0 < room) : (Step.progress 0 (s.head room)).isIdle = false :=
    Step.isIdle_eq_false.mpr (.inr (Nat.lt_of_lt_of_eq hroom (Slice.size_take_of_rest h).symm))
  refine ⟨⟨Nat.zero_le _, Slice.size_take_le _ room⟩, ?_⟩
  cases request with
  | encode => exact fun _ => hmoves
  | finish => exact ⟨Bool.noConfusion, fun _ => hmoves⟩

/-- A step of the body keeps within the whole room behind a head. -/
theorem within_behind {inner : Step} {head : ByteArray} (hhead : head.size ≤ room)
    (h : inner.Within input.size (room - head.size)) :
    (Step.progress inner.consumed (head ++ inner.output)).Within input.size room := by
  refine ⟨h.1, ?_⟩
  have hout := h.2
  rw [Step.progress, ByteArray.size_append]
  omega

/-- It moves a byte with the head when it does so by itself. -/
theorem moves_behind {inner : Step} {head : ByteArray} (hroom : 0 < room)
    (h : 0 < room - head.size → inner.isIdle = false) :
    (Step.progress inner.consumed (head ++ inner.output)).isIdle = false := by
  rw [Step.isIdle_eq_false, Step.progress, ByteArray.size_append]
  by_cases hleft : 0 < room - head.size
  · obtain hconsumed | hout := Step.isIdle_eq_false.mp (h hleft)
    · exact .inl hconsumed
    · exact .inr (by omega)
  · exact .inr (by omega)

/-- The trailer fills the room or ends the stream. -/
theorem putTrailer_advances {out : ByteArray} {consumed : Nat} (hconsumed : consumed ≤ input.size)
    (hout : out.size ≤ room) (s : Encoder σ) (left : Slice) :
    ∃ step s', s.putTrailer consumed out left room = (.ok step, s') ∧
      step.Within input.size room ∧ step.Advances input room .finish ∧
        step.consumed = consumed := by
  refine ⟨_, _, rfl, ⟨hconsumed, ?_⟩, fun hdone hroom => ?_, rfl⟩
  · rw [ByteArray.size_append, Slice.size_take]
    omega
  · have hfull := Slice.size_take_of_rest hdone
    refine Step.isIdle_eq_false.mpr (.inr ?_)
    rw [ByteArray.size_append, hfull]
    omega

end Moves

section Answers

variable (hE : E.Answers s₀ Any Step.Advances)

include hE

theorem Holds.encode_answers (h : Holds E s₀ (fun _ _ => True) level stage s taken written)
    (hallows : stage.Allows .encode input.toBytes) (room : Nat) :
    ∃ step s', s.encode E input room = (.ok step, s') ∧ step.Within input.size room ∧
      step.Advances input room .encode := by
  cases Stage.eq_feeding hallows
  cases h with
  | trailer hstage => split at hstage <;> cases hstage
  | @body inner state rest sent taken body hstage hinner hbody hsplit hfresh =>
    cases hleft : (behindHead
      { header := rest, body := state, tally := Tally.ofBytes taken } room).isEmpty with
    | false =>
      have hmoves := head_moves hleft input .encode
      exact ⟨_, _, encode_of_header hleft, hmoves.1, hmoves.2.advances⟩
    | true =>
      have hpermits : Any .encode taken input.toBytes (room - (rest.take room).size) := trivial
      obtain ⟨bodyStep, state', hcall, hwithin, hadvances⟩ :=
        hE hbody (hinner.allows hallows) hpermits
      have hencode := encode_of_body E input hleft
      simp only [head, hcall] at hencode
      exact ⟨_, _, hencode, within_behind (Slice.size_take_le rest room) hwithin,
        fun hinput hroom => moves_behind hroom (hadvances hinput)⟩

/-- If the body engine takes all that it is offered before it ends, so does the encoder. -/
theorem Holds.finish_answers (h : Holds E s₀ (fun _ _ => True) level stage s taken written)
    (hallows : stage.Allows .finish input.toBytes) (room : Nat) :
    ∃ step s', s.finish E input room = (.ok step, s') ∧ step.Within input.size room ∧
      step.Advances input room .finish ∧
      (E.EndsTaken s₀ (fun _ _ => True) → step.done = true → step.consumed = input.size) := by
  cases h with
  | @body inner state rest sent taken body hstage hinner hbody hsplit hfresh =>
    cases hleft : (behindHead
      { header := rest, body := state, tally := Tally.ofBytes taken } room).isEmpty with
    | false =>
      have hmoves := head_moves hleft input .finish
      exact ⟨_, _, finish_of_header hleft, hmoves.1, hmoves.2.advances, fun _ => Bool.noConfusion⟩
    | true =>
      have hpermits : Any .finish taken input.toBytes (room - (rest.take room).size) := trivial
      obtain ⟨bodyStep, state', hcall, hwithin, hadvances⟩ :=
        hE hbody (hinner.allows hallows) hpermits
      have hfinish := finish_of_body E input hleft rfl
      simp only [head, hcall] at hfinish
      have hbehind := within_behind (Slice.size_take_le rest room) hwithin
      cases hdone : bodyStep.done with
      | true =>
        rw [hdone, if_pos rfl] at hfinish
        rw [hfinish]
        obtain ⟨step, s', hput, hwithin', hadvances', hconsumed⟩ :=
          putTrailer_advances hwithin.1 hbehind.2 _ _
        refine ⟨step, s', hput, hwithin', hadvances', fun hends _ => hconsumed.trans ?_⟩
        exact hends hbody (hinner.allows hallows) hcall hdone
      | false =>
        rw [hdone, if_neg Bool.false_ne_true] at hfinish
        exact ⟨_, _, hfinish, hbehind, fun _ hroom => moves_behind hroom (hadvances hdone),
          fun _ => Bool.noConfusion⟩
  | @trailer state rest left behind sent taken body hstage hbehind hbody hrest hsplit =>
    subst hstage
    obtain ⟨-, hleft⟩ := behindHead_of_size_eq_zero
      (s := { header := rest, body := state, tally := Tally.ofBytes taken, trailer := some left })
        hrest room
    rw [finish_of_trailer hleft rfl]
    obtain ⟨step, s', hput, hwithin, hadvances, hconsumed⟩ :=
      putTrailer_advances (Nat.zero_le input.size) (Slice.size_take_le rest room) _ left
    refine ⟨step, s', hput, hwithin, hadvances, fun hends _ => hconsumed.trans ?_⟩
    rw [← Slice.size_toBytes, (Stage.eq_of_owing hallows).2, hbehind hends, ByteArray.size_empty]

/-- Over a body engine that answers, the gzip encoder answers. -/
theorem answers : (engine E).Answers (start level s₀) Any Step.Advances := by
  intro stage taken written s request input room hreach hallows _
  have hholds := holds_of_reached hreach
  cases request with
  | encode => exact hholds.encode_answers hE hallows room
  | finish =>
    obtain ⟨step, s', hcall, hwithin, hadvances, -⟩ := hholds.finish_answers hE hallows room
    exact ⟨step, s', hcall, hwithin, hadvances⟩

end Answers

section Follows

variable {D : Grammar}

/-- Besides the body, header and trailer are all that is written. -/
theorem Holds.size_le {bound : ByteArray → Nat}
    (hbound : ∀ {stage taken written s}, E.Reached s₀ Any stage taken written s →
      written.size ≤ bound taken)
    (h : Holds E s₀ (fun _ _ => True) level stage s taken written) :
    written.size ≤ (Header.written level).size + bound taken + Tally.trailerSize := by
  cases h with
  | body hstage hinner hbody hsplit hfresh =>
    have hbody := hbound hbody
    have hsent := congrArg ByteArray.size hsplit
    rw [ByteArray.size_append] at hsent ⊢
    omega
  | trailer hstage hbehind hbody hrest hsplit =>
    have hbody := hbound hbody
    have hsent := congrArg ByteArray.size hsplit
    rw [ByteArray.size_append, Tally.size_trailer] at hsent
    rw [ByteArray.size_append, ByteArray.size_append]
    omega

/-- At the end there is one member, and it holds what was taken. -/
theorem Holds.complete (hE : E.Follows s₀ Any D)
    (h : Holds E s₀ (fun _ _ => True) level .ended s taken written) :
    (member D).verdict written = .complete written.size ∧ (member D).plain written = taken := by
  obtain ⟨body, hbody, rfl⟩ := h.ended
  obtain ⟨hverdict, hplain⟩ := hE.complete hbody
  have hwhole := Header.whole_written level
  constructor
  · have hfront : (Tally.ofBytes taken).trailer.extract 0 Tally.trailerSize =
      (Tally.ofBytes taken).trailer := by
      rw [← Tally.size_trailer (Tally.ofBytes taken), ByteArray.extract_zero_size]
    show Member.verdict D _ = _
    rw [Member.verdict_trailer hwhole hverdict, hplain, hfront,
      Member.closing_of_ok _ (Nat.le_of_eq (Tally.size_trailer _).symm) (Tally.check_trailer _),
      ByteArray.size_append, ByteArray.size_append, Tally.size_trailer, Nat.add_assoc]
  · show Member.plain D _ = _
    rw [Member.plain_header hwhole, D.plain_settled body _ _ hverdict, hplain]

/-- The gzip encoder writes members over a body engine that writes bodies. -/
theorem follows (hE : E.Follows s₀ Any D) : (engine E).Follows (start level s₀) Any (member D) where
  answers := by
    intro stage taken written s request input room hreach hallows _
    have hholds := holds_of_reached hreach
    cases request with
    | encode => exact hholds.encode_answers hE.advances hallows room
    | finish =>
      obtain ⟨step, s', hcall, hwithin, hadvances, hall⟩ :=
        hholds.finish_answers hE.advances hallows room
      exact ⟨step, s', hcall, hwithin, hall hE.endsTaken, hadvances⟩
  bounded := by
    obtain ⟨bound, hbound⟩ := hE.bounded
    exact ⟨_, fun hreach => (holds_of_reached hreach).size_le hbound⟩
  complete := fun hreach => (holds_of_reached hreach).complete hE

end Follows

end StreamCodec.Gzip.Encoder

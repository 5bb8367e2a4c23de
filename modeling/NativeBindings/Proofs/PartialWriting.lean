import NativeBindings.Proofs.ModuleChecks

/-!
# What a sink gets of a module

A sink takes a text in writes of its own size. Each write takes something as long as there is room,
so the beginning that arrives depends on the room alone, and not on where the writes are cut. The
text of a module is handed over only when all of it is there: of a class that is not rendered, no
byte arrives.
-/

namespace NativeBindings

namespace Sink

variable {sink : Sink} {taken offered : Nat}

/-- The number of bytes that a sink takes, in as many writes as it needs, of those offered after
those taken before. -/
def room (sink : Sink) (taken offered : Nat) : Nat :=
  if sink.chunk = some 0 then 0
  else match sink.limit with
    | some limit => min (limit - taken) offered
    | none => offered

/-- There is room for no more than is offered. -/
theorem room_le : sink.room taken offered ≤ offered := by
  unfold room
  split
  · exact Nat.zero_le offered
  · split <;> omega

/-- One write fills the room, as far as the size of a write allows. -/
theorem takes_eq :
    sink.takes taken offered = min (sink.room taken offered) (sink.chunk.getD offered) := by
  obtain ⟨limit, chunk, reportsZero⟩ := sink
  cases chunk with
  | none => cases limit <;> simp [takes, room, Nat.min_comm]
  | some chunk =>
    cases limit with
    | none =>
      simp only [takes, room, Option.some.injEq, Option.getD_some]
      split <;> omega
    | some limit =>
      simp only [takes, room, Option.some.injEq, Option.getD_some]
      split <;> omega

/-- A write takes nothing only if there is no room. -/
theorem room_of_takes (h : sink.takes taken offered = 0) : sink.room taken offered = 0 := by
  rw [takes_eq, Nat.min_eq_zero_iff] at h
  rcases h with hroom | hchunk
  · exact hroom
  · cases hsize : sink.chunk with
    | none =>
      have hoffered : offered = 0 := by simpa [hsize] using hchunk
      have hle : sink.room taken offered ≤ offered := room_le
      omega
    | some chunk =>
      have hzero : chunk = 0 := by simpa [hsize] using hchunk
      simp [room, hsize, hzero]

/-- A write leaves the room that it does not fill. -/
theorem room_add {count : Nat} (htakes : count ≤ sink.takes taken offered) :
    count + sink.room (taken + count) (offered - count) = sink.room taken offered := by
  have hfits : count ≤ sink.room taken offered := by
    rw [takes_eq] at htakes
    omega
  unfold room at hfits ⊢
  split
  · next hchunk =>
    rw [if_pos hchunk] at hfits
    omega
  · next hchunk =>
    rw [if_neg hchunk] at hfits
    split
    · next hlimit =>
      simp only [hlimit] at hfits
      omega
    · next hlimit =>
      simp only [hlimit] at hfits
      omega

/-- Bytes are handed to a sink in writes of any size that it takes: what arrives of those offered,
after so many taken before, and the fault that stops it. -/
inductive Transfer (sink : Sink) : Nat → List UInt8 → List UInt8 → Option IoFault → Prop
  | done (taken : Nat) : Transfer sink taken [] [] none
  | refused {taken : Nat} {bytes : List UInt8} (hbytes : bytes ≠ [])
      (htakes : sink.takes taken bytes.length = 0) :
      Transfer sink taken bytes [] (some sink.fault)
  | write {taken count : Nat} {bytes accepted : List UInt8} {fault : Option IoFault}
      (hpos : 0 < count) (htakes : count ≤ sink.takes taken bytes.length)
      (hrest : Transfer sink (taken + count) (bytes.drop count) accepted fault) :
      Transfer sink taken bytes (bytes.take count ++ accepted) fault

/-- Writes that take all they can hand bytes over. -/
theorem transfer_writeAll (sink : Sink) (taken : Nat) (bytes : List UInt8) :
    sink.Transfer taken bytes (sink.writeAll taken bytes).1 (sink.writeAll taken bytes).2 := by
  fun_induction sink.writeAll taken bytes with
  | case1 taken bytes hempty =>
    obtain rfl := List.isEmpty_iff.mp hempty
    exact .done taken
  | case2 taken bytes hempty count hcount =>
    exact .refused (by simpa using hempty) hcount
  | case3 taken bytes hempty count hcount more fault hmore ih =>
    rw [hmore] at ih
    exact .write (Nat.pos_of_ne_zero hcount) le_rfl ih

/-- However bytes are handed over, what arrives is the beginning that there is room for, and the
fault tells whether something is missing. -/
theorem Transfer.eq {bytes accepted : List UInt8} {fault : Option IoFault}
    (h : sink.Transfer taken bytes accepted fault) :
    accepted = bytes.take (sink.room taken bytes.length) ∧
      fault = if accepted = bytes then none else some sink.fault := by
  induction h with
  | done taken => simp
  | refused hbytes htakes => simp [room_of_takes htakes, Ne.symm hbytes]
  | @write taken count bytes accepted fault hpos htakes _ ih =>
    obtain ⟨haccepted, hfault⟩ := ih
    rw [List.length_drop] at haccepted
    have hmissing : bytes.take count ++ accepted = bytes ↔ accepted = bytes.drop count := by
      conv_lhs => rhs; rw [← List.take_append_drop count bytes]
      exact List.append_right_inj _
    constructor
    · rw [← room_add htakes, List.take_add, ← haccepted]
    · simp only [hfault, hmissing]

/-- What arrives of a text, and the fault, if a sink is handed it from the beginning. -/
theorem transfer_iff {bytes accepted : List UInt8} {fault : Option IoFault} :
    sink.Transfer 0 bytes accepted fault ↔ sink.writeAll 0 bytes = (accepted, fault) := by
  have hall := sink.transfer_writeAll 0 bytes
  constructor
  · intro h
    obtain ⟨haccepted, hfault⟩ := h.eq
    obtain ⟨hreceived, hstopped⟩ := hall.eq
    have hsame : (sink.writeAll 0 bytes).1 = accepted := hreceived.trans haccepted.symm
    exact Prod.ext hsame (hstopped.trans (hsame ▸ hfault.symm))
  · intro h
    rwa [h] at hall

end Sink

/-- A failed write of bindings is reported with the name of the class. -/
theorem Failure.infix_message_writingBindings (className : String) (fault : IoFault) :
    className.toList <:+:
      (inputOutput (.writingBindings className) fault).message.toList := by
  have hmessage : (inputOutput (.writingBindings className) fault).message =
      "I/O error while " ++ ("writing bindings for " ++ className) ++ ": " ++ fault.text := by
    unfold message IoStep.text
    with_reducible rfl
  rw [hmessage]
  generalize "I/O error while " = before, "writing bindings for " = step, ": " = colon
  exact ⟨(before ++ step).toList, (colon ++ fault.text).toList, by simp⟩

namespace Binding

variable (options : Options) (c : NativeClass) (sink : Sink)

/-- The text of a rendered class is written in one piece, as the sink takes it. -/
theorem run_emit_of_render {text : String} (h : options.render c = .ok text) :
    (options.emit c).run sink =
      ((sink.writeAll 0 (Utf8.encode text)).1,
        match (sink.writeAll 0 (Utf8.encode text)).2 with
        | some fault => .error (.inputOutput (.writingBindings c.name.qualified) fault)
        | none => .ok ()) := by
  rw [Options.emit, h, Emission.run, Emission.writeTo]
  cases hwrite : sink.writeAll 0 (Utf8.encode text) with
  | mk accepted fault =>
    cases fault with
    | some fault => rfl
    | none => simp [Emission.writeTo]

/-- Of a class that is not rendered, a sink gets nothing, and the failure is that of rendering. Of
one that is, it gets the beginning of the text that it has room for, whatever the sizes of the
writes. It is a success exactly if that is the whole text; the failure otherwise names the class. -/
theorem emit_outcome :
    (∀ failure, options.render c = .error failure →
        (options.emit c).run sink = ([], .error failure)) ∧
      (∀ text bytes, options.render c = .ok text → Utf8.encode text = bytes →
        ∃ received, (options.emit c).run sink =
            (received, if received = bytes then .ok ()
              else .error (.inputOutput (.writingBindings c.name.qualified) sink.fault)) ∧
          received = (if sink.chunk = some 0 then []
            else match sink.limit with
              | some limit => bytes.take (min limit bytes.length)
              | none => bytes) ∧
          ∀ accepted fault, sink.Transfer 0 bytes accepted fault ↔
            accepted = received ∧ fault = if received = bytes then none else some sink.fault) ∧
      ∀ fault, c.name.qualified.toList <:+:
        (Failure.inputOutput (.writingBindings c.name.qualified) fault).message.toList := by
  refine ⟨fun failure hrender => ?_, fun text bytes hrender hbytes => ?_,
    Failure.infix_message_writingBindings c.name.qualified⟩
  · simp [Options.emit, hrender, Emission.run, Emission.writeTo]
  · subst hbytes
    rcases hwrite : sink.writeAll 0 (Utf8.encode text) with ⟨received, stop⟩
    obtain ⟨hreceived, hstop⟩ := (Sink.transfer_iff.mpr hwrite).eq
    refine ⟨received, ?_, ?_, fun accepted fault => ?_⟩
    · rw [run_emit_of_render options c sink hrender, hwrite, hstop]
      by_cases hall : received = Utf8.encode text
      · simp [hall]
      · simp [hall]
    · rw [hreceived, Sink.room]
      split
      · exact List.take_zero
      · split
        · rfl
        · exact List.take_length
    · rw [Sink.transfer_iff, hwrite, hstop, Prod.mk.injEq]
      exact and_congr eq_comm eq_comm

/-- The text of a module is not empty. -/
theorem encode_text_ne_nil (m : Module) : Utf8.encode m.text ≠ [] := by
  intro h
  have hline : "\n" ∈ m.lines.map (· ++ "\n") := by
    simp [Module.lines, Module.opening]
  have hbreak : '\n' ∈ m.text.toList := by
    rw [Module.text, String.toList_join]
    exact List.mem_flatMap.mpr ⟨"\n", hline, by decide⟩
  exact absurd (List.flatMap_eq_nil_iff.mp h '\n' hbreak) (by decide)

/-- The settings of a module whose implementation stands in a submodule with an accent. -/
def accentedOptions : Options where
  implModule := "é"

/-- A sink that takes single bytes gets the whole text if there is room for it, and all but the last
byte if there is room for one byte less. Of a nested class it gets nothing. -/
theorem emit_outcome_accented :
    (∃ text, accentedOptions.render ⟨⟨"p.C"⟩, []⟩ = .ok text ∧
      (accentedOptions.emit ⟨⟨"p.C"⟩, []⟩).run ⟨some (Utf8.encode text).length, some 1, true⟩ =
        (Utf8.encode text, .ok ()) ∧
      (accentedOptions.emit ⟨⟨"p.C"⟩, []⟩).run
          ⟨some ((Utf8.encode text).length - 1), some 1, true⟩ =
        ((Utf8.encode text).dropLast,
          .error (.inputOutput (.writingBindings "p.C") .nothingTaken))) ∧
      accentedOptions.render ⟨⟨"p.C$D"⟩, []⟩ =
        .error (.unsupported "p.C$D" none .dollarInClassName) ∧
      (accentedOptions.emit ⟨⟨"p.C$D"⟩, []⟩).run {} =
        ([], .error (.unsupported "p.C$D" none .dollarInClassName)) := by
  have hpasses : checkClass ⟨⟨"p.C"⟩, []⟩ = .ok () := by decide
  have himplModule : accentedOptions.implModule ∉ reservedWords := by decide
  obtain ⟨text, hrender⟩ := exists_render_iff.mpr ⟨hpasses, himplModule⟩
  obtain ⟨m, -, rfl⟩ := render_eq_ok_iff.mp hrender
  have hnested : accentedOptions.render ⟨⟨"p.C$D"⟩, []⟩ =
      .error (.unsupported "p.C$D" none .dollarInClassName) :=
    render_of_checkClass (by decide) accentedOptions
  have hwritten := fun sink =>
    (emit_outcome accentedOptions ⟨⟨"p.C"⟩, []⟩ sink).2.1 _ _ hrender rfl
  refine ⟨⟨m.text, hrender, ?_, ?_⟩, hnested, (emit_outcome _ _ _).1 _ hnested⟩
  · obtain ⟨received, hrun, hreceived, -⟩ :=
      hwritten ⟨some (Utf8.encode m.text).length, some 1, true⟩
    simpa [hreceived] using hrun
  · obtain ⟨received, hrun, hreceived, -⟩ :=
      hwritten ⟨some ((Utf8.encode m.text).length - 1), some 1, true⟩
    have hall : received = (Utf8.encode m.text).dropLast := by
      simpa [List.dropLast_eq_take] using hreceived
    have hshort : (Utf8.encode m.text).dropLast ≠ Utf8.encode m.text := by
      intro h
      have hlengths := congrArg List.length h
      have hpositive := List.length_pos_iff.mpr (encode_text_ne_nil m)
      rw [List.length_dropLast] at hlengths
      omega
    rw [hall, if_neg hshort] at hrun
    exact hrun

end Binding

end NativeBindings

import BuludTechVPN.JavaLang
import BuludTechVPN.Lines
import BuludTechVPN.Utf8

/-!
The input of the management thread: what `OpenVpnManagementThread.run` makes of the bytes it
reads from the management socket.

Each read is decoded by itself, the text is appended to what is pending, and `processInput`
passes the complete lines on. `processCommand` is a parameter: it changes the state of the
thread, and where it completes abruptly, the thread ends.
-/

namespace BuludTechVPN.ManagementInput

open JavaLang

variable {σ : Type*} {s s' : σ} {t token rest pending : Text}

/-! ### The thread -/

/-- `split("\\r?\\n", 2)`: what stands before the first line end and what stands after it. -/
def splitLine : Text → Option (Text × Text)
  | [] => none
  | '\n' :: t => some ([], t)
  | '\r' :: '\n' :: t => some ([], t)
  | c :: t => (splitLine t).map fun p => (c :: p.1, p.2)

/-- What came of some input: the strings passed to `processCommand`, and either the state of the
thread with the pending input, or the way a command made the thread end. -/
@[ext]
structure Outcome (σ : Type*) where
  passed : List Text
  result : Call (σ × Text)

lemma splitLine_length (h : splitLine t = some (token, rest)) : rest.length < t.length := by
  fun_induction splitLine t generalizing token rest with
  | case1 => simp at h
  | case2 t => simp_all
  | case3 t =>
    cases h
    rw [List.length_cons, List.length_cons]
    omega
  | case4 c t _ _ ih =>
    obtain ⟨⟨l, r⟩, hs, hlr⟩ := Option.map_eq_some_iff.mp h
    obtain ⟨rfl, rfl⟩ := Prod.mk.inj hlr
    have := ih hs
    simp; omega

variable (processCommand : σ → Text → Call σ)

def processInput (s : σ) (pendingInput : Text) : Outcome σ :=
  match _h : splitLine pendingInput with
  | none => ⟨[], .ok (s, pendingInput)⟩
  | some (token, rest) =>
    match processCommand s token with
    | .error e => ⟨[token], .error e⟩
    | .ok s =>
      let more := processInput s rest
      ⟨token :: more.passed, more.result⟩
  termination_by pendingInput.length
  decreasing_by exact splitLine_length _h

/-- The loop of `run` over the reads that the socket answers. -/
def run (utf8 : Utf8.Decoder) : σ → Text → List (List UInt8) → Outcome σ
  | s, pendingInput, [] => ⟨[], .ok (s, pendingInput)⟩
  | s, pendingInput, buffer :: reads =>
    let input := utf8.decode buffer
    let first := processInput processCommand s (pendingInput ++ input)
    match first.result with
    | .error e => ⟨first.passed, .error e⟩
    | .ok (s, pendingInput) =>
      let more := run utf8 s pendingInput reads
      ⟨first.passed ++ more.passed, more.result⟩

/-! ### Lines handed on one by one -/

/-- The commands are passed on in turn, `pending` stays. -/
def deliver : σ → List Text → Text → Outcome σ
  | s, [], pending => ⟨[], .ok (s, pending)⟩
  | s, command :: commands, pending =>
    match processCommand s command with
    | .error e => ⟨[command], .error e⟩
    | .ok s =>
      let more := deliver s commands pending
      ⟨command :: more.passed, more.result⟩

variable {processCommand}

lemma splitLine_of_notMem (h : '\n' ∉ t) : splitLine t = none := by
  fun_induction splitLine t with
  | case1 => rfl
  | case2 => simp at h
  | case3 => simp at h
  | case4 c t _ _ ih => rw [ih fun hm => h (List.mem_cons_of_mem _ hm)]; rfl

lemma splitLine_line {l : Text} (h : '\n' ∉ l) :
    splitLine (l ++ '\n' :: t) = some (Lines.chomp l, t) := by
  fun_induction Lines.chomp l with
  | case1 => rfl
  | case2 => rfl
  | case3 c l hc ih =>
    have hl : '\n' ∉ l := fun hm => h (List.mem_cons_of_mem _ hm)
    have hn : c ≠ '\n' := fun e => h (by simp [e])
    -- a carriage return ends the line only directly before the line feed
    have hr : ∀ r, ¬ (c = '\r' ∧ l ++ '\n' :: t = '\n' :: r) := by
      rintro r ⟨rfl, he⟩
      cases l with
      | nil => exact hc rfl rfl
      | cons d l => exact hl (by simp [(List.cons.inj he).1])
    rw [List.cons_append, splitLine, ih hl]
    · rfl
    · exact fun e => hn e
    · exact fun r e1 e2 => hr r ⟨e1, e2⟩

/-- `processInput` hands on the complete lines and keeps the rest. -/
theorem processInput_eq (s : σ) (t : Text) : processInput processCommand s t =
    deliver processCommand s (Lines.complete t) (Lines.unterminated t) := by
  induction t using Lines.lines_induction generalizing s with
  | last t h =>
    rw [Lines.complete_of_notMem h, Lines.unterminated_of_notMem h, processInput]
    split
    · rfl
    · next hs => simp [splitLine_of_notMem h] at hs
  | line l t h ih =>
    rw [Lines.complete_line h, Lines.unterminated_line h, processInput, deliver]
    split
    · next hs => simp [splitLine_line h] at hs
    · next token rest hs =>
      rw [splitLine_line h] at hs
      obtain ⟨rfl, rfl⟩ := Prod.mk.inj (Option.some.inj hs)
      cases processCommand s (Lines.chomp l) with
      | error e => rfl
      | ok s => simp only [ih]

/-! ### Input that arrives in pieces -/

/-- Commands after which the thread is still there are handed on in two portions as in one. -/
lemma deliver_append (s : σ) (xs ys : List Text) (pending p : Text) :
    deliver processCommand s (xs ++ ys) pending =
      match (deliver processCommand s xs p).result with
      | .error e => ⟨(deliver processCommand s xs p).passed, .error e⟩
      | .ok (s₁, _) =>
        let more := deliver processCommand s₁ ys pending
        ⟨(deliver processCommand s xs p).passed ++ more.passed, more.result⟩ := by
  induction xs generalizing s with
  | nil => rfl
  | cons x xs ih =>
    simp only [List.cons_append, deliver]
    cases processCommand s x with
    | error e => rfl
    | ok s =>
      simp only [ih]
      rcases (deliver processCommand s xs p).result with e | ⟨s', q⟩ <;> rfl

lemma deliver_pending {xs : List Text} {p : Text}
    (h : (deliver processCommand s xs pending).result = .ok (s', p)) : p = pending := by
  induction xs generalizing s with
  | nil => simp only [deliver, Except.ok.injEq, Prod.mk.injEq] at h; exact h.2.symm
  | cons x xs ih =>
    rw [deliver] at h
    cases hx : processCommand s x with
    | error e => simp [hx] at h
    | ok s => rw [hx] at h; exact ih h

/-- **Framing**: the thread makes of the reads what it would make of their decodings, joined and
read at once. -/
theorem run_eq (utf8 : Utf8.Decoder) (reads : List (List UInt8)) (s : σ) {pending : Text}
    (h : '\n' ∉ pending) : run processCommand utf8 s pending reads =
      deliver processCommand s (Lines.complete (pending ++ reads.flatMap utf8.decode))
        (Lines.unterminated (pending ++ reads.flatMap utf8.decode)) := by
  induction reads generalizing s pending with
  | nil =>
    simp [run, Lines.complete_of_notMem h, Lines.unterminated_of_notMem h, deliver]
  | cons buffer reads ih =>
    rw [List.flatMap_cons, ← List.append_assoc, Lines.complete_append,
      Lines.unterminated_append (x := pending ++ utf8.decode buffer), deliver_append s _ _ _
        (Lines.unterminated (pending ++ utf8.decode buffer)), run]
    simp only [processInput_eq]
    cases hr : (deliver processCommand s (Lines.complete (pending ++ utf8.decode buffer))
        (Lines.unterminated (pending ++ utf8.decode buffer))).result with
    | error e => rfl
    | ok q =>
      obtain ⟨s', p⟩ := q
      obtain rfl := deliver_pending hr
      simp only [ih s' (Lines.newline_notMem_unterminated _)]

/-! ### Independence of the framing -/

/-- A stream cut into the reads that the socket answers. -/
structure Cut (stream : List UInt8) (reads : List (List UInt8)) : Prop where
  flatten : reads.flatten = stream
  size : ∀ buffer ∈ reads, buffer ≠ [] ∧ buffer.length ≤ 2048

/-- The strings passed on are the complete lines of the decoded stream, and what is left pending
is its unterminated tail. -/
def FramingIndependent (processCommand : σ → Text → Call σ) (utf8 : Utf8.Decoder) (s : σ)
    (stream : List UInt8) (reads : List (List UInt8)) : Prop :=
  ∃ s', run processCommand utf8 s [] reads =
    ⟨Lines.complete (utf8.decode stream), .ok (s', Lines.unterminated (utf8.decode stream))⟩

/-- `processCommand` returns from each of the commands. -/
def Returns (processCommand : σ → Text → Call σ) (s : σ) (commands : List Text) : Prop :=
  ∃ s', commands.foldlM processCommand s = .ok s'

lemma deliver_eq_ok {xs ys : List Text} {p : Text} :
    deliver processCommand s xs pending = ⟨ys, .ok (s', p)⟩ ↔
      xs = ys ∧ pending = p ∧ xs.foldlM processCommand s = .ok s' := by
  induction xs generalizing s ys with
  | nil => simp [deliver, pure, Except.pure, and_comm]
  | cons x xs ih =>
    rw [deliver, List.foldlM_cons]
    cases processCommand s x with
    | error e => simp [bind, Except.bind]
    | ok s₁ =>
      cases ys with
      | nil => simp
      | cons y ys =>
        have := @ih s₁ ys
        simp only [Outcome.ext_iff] at this
        simp only [Outcome.ext_iff, List.cons.injEq, bind, Except.bind, and_assoc, this]

lemma eq_of_lines_eq {u : Text} (h1 : Lines.complete t = Lines.complete u)
    (h2 : Lines.unterminated t = Lines.unterminated u) : Lines.inLine t = Lines.inLine u := by
  rw [Lines.inLine_eq t, Lines.inLine_eq u, h1, h2]

section

variable {processCommand : σ → Text → Call σ} {utf8 : Utf8.Decoder} {reads : List (List UInt8)}

/-- The result for a cut stream and for the whole one, said of the texts handed on. -/
lemma framingIndependent_iff : FramingIndependent processCommand utf8 s (Utf8.encode t) reads ↔
    ∃ s', Lines.complete (reads.flatMap utf8.decode) = Lines.complete t ∧
      Lines.unterminated (reads.flatMap utf8.decode) = Lines.unterminated t ∧
      (Lines.complete t).foldlM processCommand s = .ok s' := by
  unfold FramingIndependent
  rw [run_eq utf8 reads s (by simp), List.nil_append, Utf8.Decoder.decode_encode]
  simp only [deliver_eq_ok]
  exact exists_congr fun s' => ⟨fun ⟨h1, h2, h3⟩ => ⟨h1, h2, h1 ▸ h3⟩,
    fun ⟨h1, h2, h3⟩ => ⟨h1, h2, h1 ▸ h3⟩⟩

/-- If the framing does not show, no read cuts a character: every replacement would be one more
character in a line or in the pending input. -/
lemma FramingIndependent.whole
    (h : FramingIndependent processCommand utf8 s (Utf8.encode t) reads)
    (hcut : Cut (Utf8.encode t) reads) : ∀ buffer ∈ reads, Utf8.Whole buffer := by
  obtain ⟨s', hlines, htail, -⟩ := framingIndependent_iff.mp h
  have hw : Utf8.weight ['\n', '\r'] (reads.flatMap utf8.decode) ≤ Utf8.weight ['\n', '\r'] t :=
    (eq_of_lines_eq hlines htail).le
  exact utf8.whole_of_weight_le (by decide) (by decide) hcut.flatten.symm hw

end

/-- **Framing independence**: what the thread passes on and keeps does not depend on how the
stream is cut into reads exactly if no read ends inside a character, and no command makes the
thread end. -/
theorem run_framingIndependent (processCommand : σ → Text → Call σ) (utf8 : Utf8.Decoder) (s : σ)
    (t : Text) (reads : List (List UInt8)) (hcut : Cut (Utf8.encode t) reads) :
    FramingIndependent processCommand utf8 s (Utf8.encode t) reads ↔
      (∀ buffer ∈ reads, Utf8.Whole buffer) ∧
        Returns processCommand s (Lines.complete t) := by
  constructor
  · intro h
    obtain ⟨s', -, -, hret⟩ := framingIndependent_iff.mp h
    exact ⟨h.whole hcut, s', hret⟩
  · rintro ⟨hwhole, s', hret⟩
    rw [framingIndependent_iff, utf8.flatMap_decode_of_whole hcut.flatten.symm hwhole]
    exact ⟨s', rfl, rfl, hret⟩

/-- A decoder that replaces each malformed byte by itself. -/
def bytewise : Utf8.Decoder := ⟨fun _ => 0, by simp⟩

/-- A read that ends between the two characters of a line end. -/
theorem run_framingIndependent_lineEnd :
    FramingIndependent (fun s _ => .ok s) bytewise () (Utf8.encode ">INFO:é\r\n>".toList)
      [Utf8.encode ">INFO:é\r".toList, Utf8.encode "\n>".toList] := by
  have hcut : Cut (Utf8.encode ">INFO:é\r\n>".toList)
      [Utf8.encode ">INFO:é\r".toList, Utf8.encode "\n>".toList] := ⟨by decide, by decide⟩
  refine (run_framingIndependent _ _ _ _ _ hcut).mpr ⟨?_, (), rfl⟩
  simp only [List.mem_cons, List.not_mem_nil, or_false, forall_eq_or_imp, forall_eq]
  exact ⟨⟨_, rfl⟩, ⟨_, rfl⟩⟩

/-- A read that ends inside a character shows, even if every command returns. -/
theorem cutCharacter_shows : ¬ ∀ (t : Text) (reads : List (List UInt8)),
    Cut (Utf8.encode t) reads →
      FramingIndependent (fun s _ => .ok s) bytewise () (Utf8.encode t) reads := by
  intro h
  have hcut : Cut (Utf8.encode "é\n".toList) [[0xC3], [0xA9, 0x0A]] := ⟨by decide, by decide⟩
  obtain ⟨t, ht⟩ := (h _ _ hcut).whole hcut [0xC3] (by simp)
  cases t with
  | nil => simp at ht
  | cons c t =>
    have hhead : Utf8.decodeHead [0xC3] = some c := by
      rw [ht, Utf8.encode_cons]; exact Utf8.decodeHead_encodeChar
    revert hhead
    rw [show Utf8.decodeHead [0xC3] = none by decide]
    simp

end BuludTechVPN.ManagementInput

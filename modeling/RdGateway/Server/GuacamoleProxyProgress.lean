import RdGateway.Server.GuacamoleProxyProperties

/-!
# What the Guacamole proxy holds back

The tasks come to an end with what has arrived. What they then have left is the beginning of
a line, and nothing of the browser.
-/

set_option autoImplicit false

namespace RdGateway.Server

open Wirekit

def GuacLabel.ofTask : GuacLabel → Bool
  | .handshake => true
  | .guacdToBrowser => true
  | .browserToGuacd => true
  | _ => false

def GuacPhase.rank : GuacPhase → Nat
  | .connecting => 5
  | .readingArgs => 4
  | .readingReady => 3
  | .relaying guacdToBrowser browserToGuacd => guacdToBrowser.toNat + browserToGuacd.toNat
  | .returned => 0

def GuacPhase.readsLines : GuacPhase → Bool
  | .readingArgs => true
  | .readingReady => true
  | .relaying guacdToBrowser _ => guacdToBrowser
  | _ => false

def GuacPhase.takesTexts : GuacPhase → Bool
  | .relaying _ browserToGuacd => browserToGuacd
  | _ => false

namespace GuacProxy

def TaskStep (addr : String) (params : GuacConnectParams) (self : GuacProxy) (label : GuacLabel) (next : GuacProxy) :
    Prop :=
  Step addr params self label next ∧ label.ofTask = true

def backlog (self : GuacProxy) : Nat := self.phase.rank + self.unread.length + self.inbox.length

section Measure

variable {addr : String} {params : GuacConnectParams} {self next later : GuacProxy} {io : GuacIo}

/-- A line is shorter than what it was taken from. -/
theorem readLine_le {text : Option String} (taken : self.readLine = some (text, later)) :
    later.unread.length ≤ self.unread.length ∧
      ∀ line, text = some line → line ≠ "" → later.unread.length < self.unread.length := by
  rw [readLine] at taken
  split at taken
  · next first =>
    cases taken
    obtain ⟨length, some⟩ := takeLine_length first
    have positive := List.length_pos_iff.mpr some
    exact ⟨by dsimp only; omega, fun _ _ _ => by dsimp only; omega⟩
  · split at taken
    · cases taken
    · cases taken
      refine ⟨Nat.zero_le _, fun line decoded some => List.length_pos_iff.mpr fun empty => some ?_⟩
      rw [empty] at decoded
      have bytes := utf8_of_fromUtf8 decoded
      exact String.toByteArray_inj.mp (ByteArray.ext (Array.toList_inj.mp bytes))
    · cases taken
      exact ⟨Nat.zero_le _, fun line decoded => by cases decoded⟩

theorem backlog_writeAll {data : Bytes} {done failed : GuacPhase} {bound : Nat} (first : done.rank ≤ bound)
    (second : failed.rank ≤ bound) :
    (self.writeAll io data done failed).backlog ≤ bound + self.unread.length + self.inbox.length := by
  unfold writeAll
  split
  · exact Nat.add_le_add_right (Nat.add_le_add_right first _) _
  · exact Nat.add_le_add_right (Nat.add_le_add_right second _) _

theorem backlog_send {text : String} {done failed : GuacPhase} {bound : Nat} (first : done.rank ≤ bound)
    (second : failed.rank ≤ bound) :
    (self.send io text done failed).backlog ≤ bound + self.unread.length + self.inbox.length := by
  unfold send
  split
  · exact Nat.add_le_add_right (Nat.add_le_add_right first _) _
  · exact Nat.add_le_add_right (Nat.add_le_add_right second _) _

theorem backlog_of_phase {phase : GuacPhase} (same : self.phase = phase) :
    self.backlog = phase.rank + self.unread.length + self.inbox.length := by rw [backlog, same]

theorem backlog_go (phase : GuacPhase) (rest : Bytes) :
    (go { self with unread := rest } phase).backlog = phase.rank + rest.length + self.inbox.length := rfl

theorem backlog_handshake (taken : self.handshake addr params io = some next) : next.backlog < self.backlog := by
  unfold GuacProxy.handshake at taken
  split at taken
  · next phase =>
    rw [backlog_of_phase phase]
    split at taken
    · cases taken
      have written := @backlog_writeAll self io (utf8 selectInstruction) .readingArgs .returned 4
        (by decide) (by decide)
      simp only [GuacPhase.rank]
      omega
    · cases taken
      simp only [backlog, GuacPhase.rank]
      omega
  · next phase =>
    rw [backlog_of_phase phase]
    split at taken
    · cases taken
    · next line =>
      cases taken
      have shorter := (readLine_le line).1
      obtain ⟨rest, rfl⟩ := readLine_same line
      simp only [backlog_go, GuacPhase.rank] at shorter ⊢
      omega
    · next later line =>
      cases taken
      have shorter := (readLine_le line).1
      have written := @backlog_writeAll later io (utf8 (connectInstruction params)) .readingReady .returned 3
        (by decide) (by decide)
      obtain ⟨rest, rfl⟩ := readLine_same line
      simp only [GuacPhase.rank] at shorter written ⊢
      omega
  · next phase =>
    rw [backlog_of_phase phase]
    split at taken
    · cases taken
    · next line =>
      cases taken
      have shorter := (readLine_le line).1
      obtain ⟨rest, rfl⟩ := readLine_same line
      simp only [backlog_go, GuacPhase.rank] at shorter ⊢
      omega
    · next readyLine later line =>
      have shorter := (readLine_le line).1
      have sent := @backlog_send later io (trimmed readyLine) (.relaying true true) .returned 2 (by decide) (by decide)
      obtain ⟨rest, rfl⟩ := readLine_same line
      split at taken
      · cases taken
        simp only [GuacPhase.rank] at shorter sent ⊢
        omega
      · cases taken
        simp only [backlog_go, GuacPhase.rank] at shorter ⊢
        omega
  · cases taken

theorem backlog_guacdToBrowser (taken : self.guacdToBrowser io = some next) : next.backlog < self.backlog := by
  unfold GuacProxy.guacdToBrowser at taken
  split at taken
  · next other phase =>
    rw [backlog_of_phase phase]
    split at taken
    · cases taken
    · next line =>
      cases taken
      have shorter := (readLine_le line).1
      obtain ⟨rest, rfl⟩ := readLine_same line
      simp only [backlog_go, GuacPhase.rank, Bool.toNat_true, Bool.toNat_false] at shorter ⊢
      omega
    · next buf later line =>
      obtain ⟨longer, shorter⟩ := readLine_le line
      have sent := @backlog_send later io (trimEndMatches '\n' buf) (.relaying true other) (.relaying false other)
        (1 + other.toNat) (Nat.le_refl _) (Nat.add_le_add_right (by decide) _)
      obtain ⟨rest, rfl⟩ := readLine_same line
      split at taken
      · cases taken
        simp only [backlog_go, GuacPhase.rank, Bool.toNat_true, Bool.toNat_false] at longer ⊢
        omega
      · next some =>
        cases taken
        have taken := shorter buf rfl some
        simp only [GuacPhase.rank, Bool.toNat_true] at taken sent ⊢
        omega
  · cases taken

theorem backlog_browserToGuacd (taken : self.browserToGuacd io = some next) : next.backlog < self.backlog := by
  unfold GuacProxy.browserToGuacd at taken
  split at taken
  · next other phase =>
    rw [backlog_of_phase phase]
    split at taken
    · cases taken
    · next msg inbox queued =>
      rw [queued]
      dsimp only at taken
      have ranked : ({ self with inbox } : GuacProxy).phase.rank = (GuacPhase.relaying other true).rank :=
        congrArg GuacPhase.rank phase
      split at taken
      · next typed =>
        cases taken
        have written := @backlog_writeAll { self with inbox } io (utf8 typed ++ [lineFeed]) (.relaying other true)
          (.relaying other false) (other.toNat + 1) (Nat.le_refl _) (Nat.le_succ _)
        simp only [GuacPhase.rank, Bool.toNat_true, List.length_cons] at written ⊢
        omega
      · cases taken
        simp only [backlog, go, GuacPhase.rank, Bool.toNat_true, Bool.toNat_false, List.length_cons]
        omega
      · cases taken
        simp only [backlog, go, GuacPhase.rank, Bool.toNat_true, Bool.toNat_false, List.length_cons]
        omega
      · cases taken
        simp only [backlog, ranked, List.length_cons]
        omega
  · cases taken

theorem TaskStep.backlog_lt {label : GuacLabel} (taken : TaskStep addr params self label next) :
    next.backlog < self.backlog := by
  obtain ⟨step, own⟩ := taken
  cases step with
  | handshake io taken => exact backlog_handshake taken
  | guacdToBrowser io taken => exact backlog_guacdToBrowser taken
  | browserToGuacd io taken => exact backlog_browserToGuacd taken
  | _ => cases own

end Measure

/-! ## Where no task has a step left -/

/-- A task that reads lines waits for the end of one, and a task that takes texts has taken
all of them. -/
structure AtRest (proxy : GuacProxy) : Prop where
  dialed : proxy.phase ≠ .connecting
  line : proxy.phase.readsLines = true → lineFeed ∉ proxy.unread ∧ proxy.guacd = .sending
  texts : proxy.phase.takesTexts = true → proxy.inbox = []

section Rest

variable {addr : String} {params : GuacConnectParams} {proxy : GuacProxy}

theorem atRest_of_quiet (quiet : Quiet (TaskStep addr params) proxy) : proxy.AtRest := by
  have shaken (next : GuacProxy) : proxy.handshake addr params .working ≠ some next :=
    fun taken => quiet .handshake next ⟨.handshake .working taken, rfl⟩
  have copied (next : GuacProxy) : proxy.guacdToBrowser .working ≠ some next :=
    fun taken => quiet .guacdToBrowser next ⟨.guacdToBrowser .working taken, rfl⟩
  have typed (next : GuacProxy) : proxy.browserToGuacd .working ≠ some next :=
    fun taken => quiet .browserToGuacd next ⟨.browserToGuacd .working taken, rfl⟩
  refine ⟨fun phase => ?_, fun reads => ?_, fun takes => ?_⟩
  · unfold GuacProxy.handshake at shaken
    rw [phase] at shaken
    exact shaken _ rfl
  · rw [← readLine_eq_none]
    cases line : proxy.readLine with
    | none => rfl
    | some pair =>
        obtain ⟨text, later⟩ := pair
        exfalso
        cases phase : proxy.phase with
        | connecting => rw [phase] at reads; cases reads
        | returned => rw [phase] at reads; cases reads
        | readingArgs =>
            unfold GuacProxy.handshake at shaken
            rw [phase] at shaken
            dsimp only at shaken
            rw [line] at shaken
            cases text with
            | none => exact shaken _ rfl
            | some text => exact shaken _ rfl
        | readingReady =>
            unfold GuacProxy.handshake at shaken
            rw [phase] at shaken
            dsimp only at shaken
            rw [line] at shaken
            cases text with
            | none => exact shaken _ rfl
            | some text =>
                dsimp only at shaken
                split at shaken
                · exact shaken _ rfl
                · exact shaken _ rfl
        | relaying guacdToBrowser browserToGuacd =>
            rw [phase] at reads
            cases reads
            unfold GuacProxy.guacdToBrowser at copied
            rw [phase] at copied
            dsimp only at copied
            rw [line] at copied
            cases text with
            | none => exact copied _ rfl
            | some text =>
                dsimp only at copied
                split at copied
                · exact copied _ rfl
                · exact copied _ rfl
  · cases queued : proxy.inbox with
    | nil => rfl
    | cons msg inbox =>
        exfalso
        cases phase : proxy.phase with
        | relaying guacdToBrowser browserToGuacd =>
            rw [phase] at takes
            cases takes
            unfold GuacProxy.browserToGuacd at typed
            rw [phase] at typed
            dsimp only at typed
            rw [queued] at typed
            cases msg <;> exact typed _ rfl
        | _ => rw [phase] at takes; cases takes

/-- A side whose task still runs has got everything. -/
theorem Kept.complete {labels : List GuacLabel} {lines : List Bytes} {items : List GuacMessage}
    (kept : Kept addr params labels proxy lines items) (rests : proxy.AtRest)
    {guacdToBrowser browserToGuacd : Bool} (phase : proxy.phase = .relaying guacdToBrowser browserToGuacd) :
    (guacdToBrowser = true → proxy.frames = browserFrames false (labels.flatMap guacdSent)) ∧
      (browserToGuacd = true → proxy.written = guacdBytes params (labels.filterMap browsed)) := by
  have fits := kept.fits
  unfold Fits at fits
  rw [phase] at fits
  obtain ⟨_, _, running, _, backwards⟩ := fits
  obtain ⟨_, line, texts⟩ := rests
  rw [phase] at line texts
  refine ⟨fun runs => ?_, fun runs => ?_⟩
  · obtain ⟨partial', sending⟩ := line runs
    have whole := kept.read.whole sending false []
    rw [List.append_nil, List.append_nil, linesOf_rest partial', if_neg (fun both => Bool.false_ne_true both.1),
      List.append_nil] at whole
    rw [browserFrames, whole]
    exact (running runs).1
  · rw [kept.inbox, texts runs, List.append_nil]
    exact (backwards runs).1

/-- In every run, at every point: the tasks have a bounded number of steps left, and however
these are taken and go, a task that still runs behind them has passed on everything: each
complete line that guacd sent, and each text of the browser. -/
theorem proxy_comes_to_rest {labels : List GuacLabel} (run : Steps (Step addr params) start labels proxy) :
    (∃ own final, Steps (TaskStep addr params) proxy own final ∧ Quiet (TaskStep addr params) final) ∧
      ∀ own final, Steps (TaskStep addr params) proxy own final → own.length ≤ proxy.backlog ∧
        (Quiet (TaskStep addr params) final → final.AtRest ∧
          ∀ guacdToBrowser browserToGuacd, final.phase = .relaying guacdToBrowser browserToGuacd →
            (guacdToBrowser = true → final.frames = browserFrames false ((labels ++ own).flatMap guacdSent)) ∧
              (browserToGuacd = true →
                final.written = guacdBytes params ((labels ++ own).filterMap browsed))) := by
  refine ⟨exists_quiet (fun _ _ _ taken => taken.backlog_lt) proxy, fun own final steps => ⟨?_, fun quiet => ?_⟩⟩
  · exact Nat.le_of_add_right_le (steps.length_le fun _ _ _ taken => taken.backlog_lt)
  · have whole := run.append (steps.mono fun _ _ _ taken => taken.1)
    have rests := atRest_of_quiet quiet
    obtain ⟨lines, items, kept⟩ := kept_of_run whole
    exact ⟨rests, fun _ _ phase => kept.complete rests phase⟩

theorem proxy_comes_to_rest_opened :
    (∃ own final, Steps (TaskStep "guacd" deskParams) waitingProxy own final ∧
        Quiet (TaskStep "guacd" deskParams) final) ∧
      ∀ own final, Steps (TaskStep "guacd" deskParams) waitingProxy own final → own.length ≤ 15 ∧
        (Quiet (TaskStep "guacd" deskParams) final → final.AtRest ∧
          ∀ guacdToBrowser browserToGuacd, final.phase = .relaying guacdToBrowser browserToGuacd →
            (guacdToBrowser = true →
              final.frames = browserFrames false ((waitingLabels ++ own).flatMap guacdSent)) ∧
              (browserToGuacd = true →
                final.written = guacdBytes deskParams ((waitingLabels ++ own).filterMap browsed))) :=
  proxy_comes_to_rest waiting_run

end Rest

end GuacProxy

end RdGateway.Server

import RdGateway.Server.GuacamoleProxy
import RdGateway.Wirekit.Interleave

/-!
# What passes through the Guacamole proxy

The browser gets the lines of guacd and guacd gets the texts of the browser, each once and in
order, and nothing of the browser goes ahead of the handshake.
-/

set_option autoImplicit false

namespace RdGateway.Server

open Wirekit

theorem utf8_of_fromUtf8 {bytes : Bytes} {text : String} (decoded : fromUtf8 bytes = some text) :
    utf8 text = bytes := by
  unfold fromUtf8 String.fromUTF8? at decoded
  split at decoded
  · cases decoded
    rfl
  · cases decoded

theorem decodedLines_front (lines more : List Bytes) : decodedLines lines <+: decodedLines (lines ++ more) := by
  induction lines with
  | nil => exact List.nil_prefix
  | cons line rest ih =>
      rw [List.cons_append, decodedLines, decodedLines]
      cases fromUtf8 line with
      | none => exact List.nil_prefix
      | some text => exact (List.prefix_cons_inj text).mpr ih

/-- A line behind lines that are all UTF-8. -/
theorem decodedLines_append {lines : List Bytes} (decoded : (decodedLines lines).length = lines.length)
    (line : Bytes) : decodedLines (lines ++ [line]) = decodedLines lines ++ (fromUtf8 line).toList := by
  induction lines with
  | nil =>
      rw [List.nil_append, decodedLines, decodedLines]
      cases fromUtf8 line <;> rfl
  | cons first rest ih =>
      rw [decodedLines] at decoded
      rw [List.cons_append, decodedLines, decodedLines]
      cases text : fromUtf8 first with
      | none =>
          rw [text] at decoded
          cases decoded
      | some text' =>
          rw [text] at decoded
          rw [ih (Nat.succ.inj decoded)]
          rfl

theorem framesOf_front {lines more : List String} (front : lines <+: more) : framesOf lines <+: framesOf more := by
  obtain ⟨behind, rfl⟩ := front
  cases lines with
  | nil => exact List.nil_prefix
  | cons args lines =>
      cases lines with
      | nil => exact List.nil_prefix
      | cons ready rest =>
          simp only [framesOf, List.cons_append]
          split
          · rw [List.prefix_cons_inj, List.map_append]
            exact List.prefix_append _ _
          · exact List.nil_prefix

theorem framesOf_append {lines : List String} (accepted : framesOf lines ≠ []) (line : String) :
    framesOf (lines ++ [line]) = framesOf lines ++ [.text (trimEndMatches '\n' line)] := by
  cases lines with
  | nil => exact absurd rfl accepted
  | cons args lines =>
      cases lines with
      | nil => exact absurd rfl accepted
      | cons ready rest =>
          simp only [framesOf] at accepted
          simp only [framesOf, List.cons_append]
          split
          · rw [List.map_append]
            rfl
          · next refused => exact absurd (if_neg refused) accepted

/-! ## Lines that were read -/

def GuacIo.working : GuacIo := { connected := true, cut := none, sent := true, closed := true }

namespace GuacProxy

def atEnd (self : GuacProxy) : Bool := self.guacd = .ended

structure LinesRead (stream : Bytes) (lines : List Bytes) (proxy : GuacProxy) : Prop where
  whole : proxy.guacd = .sending → TakenOff lineFeed stream lines proxy.unread
  front : lines ++ linesOf lineFeed proxy.atEnd proxy.unread <+: linesOf lineFeed proxy.atEnd stream

/-- A line was there, or the stream is at its end. -/
inductive ReadLine (stream : Bytes) (lines : List Bytes) (self : GuacProxy) : Option String → GuacProxy → Prop where
  | line {line rest : Bytes} (some : line ≠ [])
      (read : LinesRead stream (lines ++ [line]) { self with unread := rest })
      (shorter : rest.length < self.unread.length) :
      ReadLine stream lines self (fromUtf8 line) { self with unread := rest }
  | nothing {text : Option String} (none : ∀ line, text = some line → line = "") (ended : self.guacd ≠ .sending)
      (read : LinesRead stream lines { self with unread := [] }) :
      ReadLine stream lines self text { self with unread := [] }

theorem readLine_eq_none {self : GuacProxy} :
    self.readLine = none ↔ lineFeed ∉ self.unread ∧ self.guacd = .sending := by
  rw [readLine, ← takeLine_eq_none]
  cases takeLine lineFeed self.unread with
  | some pair => simp
  | none => cases self.guacd <;> simp

theorem LinesRead.read {stream : Bytes} {lines : List Bytes} {self later : GuacProxy} {text : Option String}
    (read : LinesRead stream lines self) (taken : self.readLine = some (text, later)) :
    ReadLine stream lines self text later := by
  rw [readLine] at taken
  cases first : takeLine lineFeed self.unread with
  | some pair =>
      obtain ⟨line, rest⟩ := pair
      rw [first] at taken
      cases taken
      obtain ⟨length, some⟩ := takeLine_length first
      have shorter := List.length_pos_iff.mpr some
      refine .line some ⟨fun sending => (read.whole sending).take first, ?_⟩ (by omega)
      have front := read.front
      rw [linesOf_taken first] at front
      rwa [List.append_assoc]
  | none =>
      rw [first] at taken
      have rest := linesOf_rest (takeLine_eq_none.mp first)
      have front := read.front
      dsimp only at taken
      split at taken
      · cases taken
      · next source =>
        cases taken
        have unsending : self.guacd ≠ .sending := by rw [source]; exact GuacdStream.noConfusion
        have ended : self.atEnd = true := decide_eq_true source
        rw [rest, ended] at front
        by_cases empty : self.unread = []
        · rw [if_neg (fun both => both.2 empty), ← ended] at front
          refine .nothing ?_ unsending ⟨fun sending => absurd sending unsending, front⟩
          intro line decoded
          rw [empty] at decoded
          have bytes := utf8_of_fromUtf8 decoded
          exact String.toByteArray_inj.mp (ByteArray.ext (Array.toList_inj.mp bytes))
        · rw [if_pos ⟨rfl, empty⟩, ← ended] at front
          refine .line empty ⟨fun sending => absurd sending unsending, ?_⟩ (List.length_pos_iff.mpr empty)
          exact (List.append_nil (lines ++ [self.unread])).symm ▸ front
      · next source =>
        cases taken
        have unsending : self.guacd ≠ .sending := by rw [source]; exact GuacdStream.noConfusion
        refine .nothing (by intro line none; cases none) unsending ⟨fun sending => absurd sending unsending, ?_⟩
        exact (List.append_nil lines).symm ▸ (List.prefix_append lines _).trans front

/-! ## The phases -/

/-- What a proxy has done that has read these lines and taken these messages. -/
def Fits (addr : String) (params : GuacConnectParams) (lines : List Bytes) (items : List GuacMessage)
    (self : GuacProxy) : Prop :=
  match self.phase with
  | .connecting => lines = [] ∧ items = [] ∧ self.written = [] ∧ self.frames = []
  | .readingArgs => lines = [] ∧ items = [] ∧ self.written = utf8 selectInstruction ∧ self.frames = []
  | .readingReady =>
      items = [] ∧ self.written = handshakeBytes params ∧ self.frames = [] ∧
        ((∃ args, decodedLines lines = [args] ∧ lines.length = 1) ∨ (self.guacd ≠ .sending ∧ self.unread = []))
  | .relaying guacdToBrowser browserToGuacd =>
      self.frames ≠ [] ∧ self.frames <+: framesOf (decodedLines lines) ∧
        (guacdToBrowser = true → self.frames = framesOf (decodedLines lines) ∧
          (decodedLines lines).length = lines.length) ∧
        self.written <+: guacdBytes params items ∧
        (browserToGuacd = true → self.written = guacdBytes params items ∧ ∀ msg ∈ items, msg.goesOn = true)
  | .returned =>
      items = [] ∧
        (self.frames = [] ∨ (self.frames.Sublist [.text (guacdError addr), .close] ∧ self.written = [])) ∧
        self.written <+: handshakeBytes params ∧
        (lines = [] → self.guacd = .sending → self.written <+: utf8 selectInstruction)

theorem guacdBytes_nil (params : GuacConnectParams) : guacdBytes params [] = handshakeBytes params :=
  List.append_nil _

theorem takeWhile_all {items : List GuacMessage} (goOn : ∀ msg ∈ items, msg.goesOn = true) (more : List GuacMessage) :
    (items ++ more).takeWhile GuacMessage.goesOn = items ++ more.takeWhile GuacMessage.goesOn :=
  List.takeWhile_append_of_pos goOn

theorem goOn_append {items : List GuacMessage} (goOn : ∀ msg ∈ items, msg.goesOn = true) {last : GuacMessage}
    (goesOn : last.goesOn = true) : ∀ msg ∈ items ++ [last], msg.goesOn = true := by
  intro msg member
  rcases List.mem_append.mp member with old | new
  · exact goOn msg old
  · rw [List.mem_singleton.mp new]
    exact goesOn

theorem guacdBytes_append (params : GuacConnectParams) {items : List GuacMessage}
    (goOn : ∀ msg ∈ items, msg.goesOn = true) (msg : GuacMessage) (goesOn : msg.goesOn = true) :
    guacdBytes params (items ++ [msg]) = guacdBytes params items ++ msg.data := by
  have all := takeWhile_all goOn []
  rw [List.append_nil, List.takeWhile_nil, List.append_nil] at all
  rw [guacdBytes, guacdBytes, takeWhile_all goOn, all, List.takeWhile_cons_of_pos goesOn, List.takeWhile_nil,
    List.flatMap_append, List.flatMap_singleton, List.append_assoc]

theorem guacdBytes_front (params : GuacConnectParams) (items more : List GuacMessage) :
    guacdBytes params items <+: guacdBytes params (items ++ more) := by
  obtain ⟨rest, same⟩ := @takeWhile_grows _ GuacMessage.goesOn items more
  rw [guacdBytes, guacdBytes, ← same, List.flatMap_append, ← List.append_assoc]
  exact List.prefix_append _ _

/-- The books of a run. -/
structure Kept (addr : String) (params : GuacConnectParams) (labels : List GuacLabel) (proxy : GuacProxy)
    (lines : List Bytes) (items : List GuacMessage) : Prop where
  read : LinesRead (labels.flatMap guacdSent) lines proxy
  inbox : labels.filterMap browsed = items ++ proxy.inbox
  fits : Fits addr params lines items proxy

/-- What the step of a task leaves: it has read some more lines and messages. -/
def Goes (addr : String) (params : GuacConnectParams) (stream : Bytes) (lines : List Bytes)
    (items : List GuacMessage) (self next : GuacProxy) : Prop :=
  ∃ moreLines moreItems, LinesRead stream (lines ++ moreLines) next ∧ self.inbox = moreItems ++ next.inbox ∧
    Fits addr params (lines ++ moreLines) (items ++ moreItems) next

section Tasks

variable {addr : String} {params : GuacConnectParams} {stream : Bytes} {lines : List Bytes}
  {items : List GuacMessage} {self next : GuacProxy} {io : GuacIo}

theorem readLine_same {later : GuacProxy} {text : Option String} (taken : self.readLine = some (text, later)) :
    ∃ rest, later = { self with unread := rest } := by
  rw [readLine] at taken
  split at taken
  · cases taken
    exact ⟨_, rfl⟩
  · split at taken
    · cases taken
    · cases taken
      exact ⟨_, rfl⟩
    · cases taken
      exact ⟨_, rfl⟩

theorem Goes.of_read {text : Option String} {later : GuacProxy} (read : LinesRead stream lines self)
    (taken : self.readLine = some (text, later))
    (same : next.guacd = later.guacd ∧ next.unread = later.unread ∧ next.inbox = later.inbox)
    (line : ∀ line, text = fromUtf8 line → self.unread ≠ [] → Fits addr params (lines ++ [line]) items next)
    (nothing : (∀ line, text = some line → line = "") → self.guacd ≠ .sending → later.unread = [] →
      Fits addr params lines items next) : Goes addr params stream lines items self next := by
  obtain ⟨source, unread, inbox⟩ := same
  have moved {others : List Bytes} (kept : LinesRead stream others later) : LinesRead stream others next := by
    obtain ⟨whole, front⟩ := kept
    constructor
    · rw [source, unread]
      exact whole
    · rw [atEnd, source, unread]
      exact front
  cases read.read taken with
  | @line first rest some kept shorter =>
      refine ⟨[first], [], moved kept, inbox.symm, ?_⟩
      rw [List.append_nil]
      exact line first rfl (List.length_pos_iff.mp (Nat.zero_lt_of_lt shorter))
  | nothing none ended kept =>
      refine ⟨[], [], ?_, inbox.symm, ?_⟩
      · rw [List.append_nil]
        exact moved kept
      · rw [List.append_nil, List.append_nil]
        exact nothing none ended rfl

theorem Goes.of_same (read : LinesRead stream lines self)
    (same : next.guacd = self.guacd ∧ next.unread = self.unread) {moreItems : List GuacMessage}
    (inbox : self.inbox = moreItems ++ next.inbox) (fits : Fits addr params lines (items ++ moreItems) next) :
    Goes addr params stream lines items self next := by
  refine ⟨[], moreItems, ?_, inbox, ?_⟩
  · obtain ⟨whole, front⟩ := read
    rw [List.append_nil]
    constructor
    · rw [same.1, same.2]
      exact whole
    · rw [atEnd, same.1, same.2]
      exact front
  · rw [List.append_nil]
    exact fits

theorem Goes.of_taken (read : LinesRead stream lines self)
    (same : next.guacd = self.guacd ∧ next.unread = self.unread) (msg : GuacMessage)
    (inbox : self.inbox = msg :: next.inbox) (fits : Fits addr params lines (items ++ [msg]) next) :
    Goes addr params stream lines items self next :=
  .of_same read same (inbox.trans List.singleton_append.symm) fits

theorem refusal_sublist (addr : String) (io : GuacIo) :
    (refusal addr io).Sublist [.text (guacdError addr), .close] := by
  have kept {frame : GuacFrame} (goes : Bool) : (if goes then [frame] else []).Sublist [frame] := by
    cases goes
    · exact List.nil_sublist _
    · exact List.Sublist.refl _
  exact (kept io.sent).append (kept io.closed)

theorem Fits.handshake (fits : Fits addr params lines items self) (read : LinesRead stream lines self)
    (taken : self.handshake addr params io = some next) : Goes addr params stream lines items self next := by
  unfold Fits at fits
  unfold GuacProxy.handshake at taken
  split at taken
  · next phase =>
    rw [phase] at fits
    obtain ⟨rfl, rfl, unwritten, unsent⟩ := fits
    split at taken
    · cases taken
      unfold writeAll
      split
      · refine .of_same read ⟨rfl, rfl⟩ (List.nil_append _).symm ⟨rfl, rfl, ?_, unsent⟩
        rw [unwritten]
        rfl
      · next count _ =>
        have part : self.written ++ (utf8 selectInstruction).take count <+: utf8 selectInstruction := by
          rw [unwritten]
          exact List.take_prefix _ _
        refine .of_same read ⟨rfl, rfl⟩ (List.nil_append _).symm ?_
        exact ⟨rfl, .inl unsent, part.trans (List.prefix_append _ _), fun _ _ => part⟩
    · cases taken
      refine .of_same read ⟨rfl, rfl⟩ (List.nil_append _).symm ⟨rfl, .inr ⟨?_, unwritten⟩, ?_, fun _ _ => ?_⟩
      · rw [unsent]
        exact refusal_sublist addr io
      · exact unwritten ▸ List.nil_prefix
      · exact unwritten ▸ List.nil_prefix
  · next phase =>
    rw [phase] at fits
    obtain ⟨rfl, rfl, selected, unsent⟩ := fits
    have front : self.written <+: handshakeBytes params := selected ▸ List.prefix_append _ _
    split at taken
    · cases taken
    · next line =>
      cases taken
      obtain ⟨rest, rfl⟩ := readLine_same line
      have returned (others : List Bytes) :
          Fits addr params others [] (go { self with unread := rest } .returned) :=
        ⟨rfl, .inl unsent, front, fun _ _ => selected ▸ List.prefix_rfl⟩
      exact .of_read read line ⟨rfl, rfl, rfl⟩ (fun _ _ _ => returned _) fun _ _ _ => returned _
    · next args _ line =>
      cases taken
      obtain ⟨rest, rfl⟩ := readLine_same line
      unfold writeAll
      split
      · have both : self.written ++ utf8 (connectInstruction params) = handshakeBytes params := by
          rw [selected]
          rfl
        refine .of_read read line ⟨rfl, rfl, rfl⟩ (fun bytes decoded _ => ?_) fun _ ended drained => ?_
        · refine ⟨rfl, both, unsent, .inl ⟨args, ?_, rfl⟩⟩
          rw [List.nil_append, decodedLines, ← decoded]
          rfl
        · exact ⟨rfl, both, unsent, .inr ⟨ended, drained⟩⟩
      · next count _ =>
        have part : self.written ++ (utf8 (connectInstruction params)).take count <+: handshakeBytes params := by
          rw [selected]
          exact (List.prefix_append_right_inj _).mpr (List.take_prefix _ _)
        refine .of_read read line ⟨rfl, rfl, rfl⟩ (fun bytes decoded _ => ?_) fun _ ended drained => ?_
        · exact ⟨rfl, .inl unsent, part, fun none => absurd none (List.cons_ne_nil _ _)⟩
        · exact ⟨rfl, .inl unsent, part, fun _ sending => absurd sending ended⟩
  · next phase =>
    rw [phase] at fits
    obtain ⟨rfl, both, unsent, args⟩ := fits
    have front : self.written <+: handshakeBytes params := both ▸ List.prefix_rfl
    have returned (more : List Bytes) (rest : Bytes) :
        Fits addr params (lines ++ more) [] (go { self with unread := rest } .returned) := by
      refine ⟨rfl, .inl unsent, front, fun none sending => ?_⟩
      rcases args with ⟨_, _, one⟩ | ⟨ended, _⟩
      · rw [(List.append_eq_nil_iff.mp none).1] at one
        cases one
      · exact absurd sending ended
    have returned' (rest : Bytes) : Fits addr params lines [] (go { self with unread := rest } .returned) := by
      have same := returned [] rest
      rwa [List.append_nil] at same
    split at taken
    · cases taken
    · next line =>
      cases taken
      obtain ⟨rest, rfl⟩ := readLine_same line
      exact .of_read read line ⟨rfl, rfl, rfl⟩ (fun _ _ _ => returned _ _) fun _ _ _ => returned' _
    · next readyLine _ line =>
      obtain ⟨rest, rfl⟩ := readLine_same line
      split at taken
      · next accepted =>
        cases taken
        unfold send
        split
        · refine .of_read read line ⟨rfl, rfl, rfl⟩ (fun bytes decoded some => ?_) fun empty _ _ => ?_
          · rcases args with ⟨args, only, one⟩ | ⟨_, drained⟩
            · have texts := decodedLines_append (by rw [only, one]; rfl) bytes
              rw [only, ← decoded] at texts
              have frames : self.frames ++ [.text (trimmed readyLine)] = framesOf [args, readyLine] := by
                rw [unsent, framesOf, if_pos accepted]
                rfl
              have same : self.frames ++ [.text (trimmed readyLine)] = framesOf (decodedLines (lines ++ [bytes])) :=
                frames.trans (congrArg framesOf texts.symm)
              refine ⟨?_, same ▸ List.prefix_rfl, fun _ => ⟨same, ?_⟩, ?_, fun _ => ⟨?_, ?_⟩⟩
              · exact List.append_ne_nil_of_right_ne_nil _ (List.cons_ne_nil _ _)
              · rw [texts, List.length_append, List.length_append, one]
                rfl
              · rw [guacdBytes_nil]
                exact front
              · rw [guacdBytes_nil]
                exact both
              · exact List.forall_mem_nil _
            · exact absurd drained some
          · rw [empty _ rfl] at accepted
            exact absurd accepted (by decide)
        · exact .of_read read line ⟨rfl, rfl, rfl⟩ (fun _ _ _ => returned _ _) fun _ _ _ => returned' _
      · cases taken
        exact .of_read read line ⟨rfl, rfl, rfl⟩ (fun _ _ _ => returned _ _) fun _ _ _ => returned' _
  · cases taken

theorem Fits.guacdToBrowser (fits : Fits addr params lines items self) (read : LinesRead stream lines self)
    (taken : self.guacdToBrowser io = some next) : Goes addr params stream lines items self next := by
  unfold Fits at fits
  unfold GuacProxy.guacdToBrowser at taken
  split at taken
  · next other phase =>
    rw [phase] at fits
    obtain ⟨sent, front, running, written, backwards⟩ := fits
    obtain ⟨whole, decoded⟩ := running rfl
    have further (more : List Bytes) (rest : Bytes) :
        Fits addr params (lines ++ more) items (go { self with unread := rest } (.relaying false other)) := by
      refine ⟨sent, front.trans (framesOf_front (decodedLines_front lines more)), ?_, written, backwards⟩
      exact fun runs => absurd runs Bool.false_ne_true
    have further' (rest : Bytes) :
        Fits addr params lines items (go { self with unread := rest } (.relaying false other)) := by
      have same := further [] rest
      rwa [List.append_nil] at same
    split at taken
    · cases taken
    · next line =>
      cases taken
      obtain ⟨rest, rfl⟩ := readLine_same line
      exact .of_read read line ⟨rfl, rfl, rfl⟩ (fun _ _ _ => further _ _) fun _ _ _ => further' _
    · next buf _ line =>
      obtain ⟨rest, rfl⟩ := readLine_same line
      split at taken
      · cases taken
        exact .of_read read line ⟨rfl, rfl, rfl⟩ (fun _ _ _ => further _ _) fun _ _ _ => further' _
      · next some =>
        cases taken
        unfold send
        split
        · refine .of_read read line ⟨rfl, rfl, rfl⟩ (fun bytes text _ => ?_) fun empty _ _ => absurd (empty _ rfl) some
          have texts := decodedLines_append decoded bytes
          rw [← text] at texts
          have grown : self.frames ++ [.text (trimEndMatches '\n' buf)] =
              framesOf (decodedLines (lines ++ [bytes])) := by
            rw [texts, whole]
            exact (framesOf_append (whole ▸ sent) buf).symm
          refine ⟨?_, grown ▸ List.prefix_rfl, fun _ => ⟨grown, ?_⟩, written, backwards⟩
          · exact List.append_ne_nil_of_left_ne_nil sent _
          · rw [texts, List.length_append, List.length_append, decoded]
            rfl
        · exact .of_read read line ⟨rfl, rfl, rfl⟩ (fun _ _ _ => further _ _) fun _ _ _ => further' _
  · cases taken

theorem Fits.browserToGuacd (fits : Fits addr params lines items self) (read : LinesRead stream lines self)
    (taken : self.browserToGuacd io = some next) : Goes addr params stream lines items self next := by
  unfold Fits at fits
  unfold GuacProxy.browserToGuacd at taken
  split at taken
  · next other phase =>
    rw [phase] at fits
    obtain ⟨sent, front, running, written, backwards⟩ := fits
    obtain ⟨whole, goOn⟩ := backwards rfl
    have further (msg : GuacMessage) (inbox : List GuacMessage) :
        Fits addr params lines (items ++ [msg]) (go { self with inbox } (.relaying other false)) := by
      refine ⟨sent, front, running, written.trans (guacdBytes_front params items [msg]), ?_⟩
      exact fun runs => absurd runs Bool.false_ne_true
    split at taken
    · cases taken
    · next msg inbox queued =>
      dsimp only at taken
      split at taken
      · next typed =>
        cases taken
        have grown := guacdBytes_append params goOn (.text typed) rfl
        unfold writeAll
        split
        · have all : self.written ++ (utf8 typed ++ [lineFeed]) = guacdBytes params (items ++ [.text typed]) := by
            rw [grown, whole]
            rfl
          refine .of_taken read ⟨rfl, rfl⟩ _ queued ?_
          exact ⟨sent, front, running, all ▸ List.prefix_rfl, fun _ => ⟨all, goOn_append goOn rfl⟩⟩
        · next count _ =>
          refine .of_taken read ⟨rfl, rfl⟩ _ queued
            ⟨sent, front, running, ?_, fun runs => absurd runs Bool.false_ne_true⟩
          rw [grown, whole]
          exact (List.prefix_append_right_inj _).mpr (List.take_prefix _ _)
      · cases taken
        exact .of_taken read ⟨rfl, rfl⟩ _ queued (further _ _)
      · cases taken
        exact .of_taken read ⟨rfl, rfl⟩ _ queued (further _ _)
      · cases taken
        have same : guacdBytes params (items ++ [.other]) = guacdBytes params items :=
          (guacdBytes_append params goOn .other rfl).trans (List.append_nil _)
        refine .of_taken read ⟨rfl, rfl⟩ _ queued ?_
        unfold Fits
        dsimp only
        rw [phase]
        dsimp only
        rw [same]
        exact ⟨sent, front, running, written, fun _ => ⟨whole, goOn_append goOn rfl⟩⟩
  · cases taken

end Tasks

/-! ## Runs -/

theorem flatMap_silent {labels : List GuacLabel} {label : GuacLabel} (silent : guacdSent label = []) :
    (labels ++ [label]).flatMap guacdSent = labels.flatMap guacdSent := by
  rw [List.flatMap_append, List.flatMap_singleton, silent, List.append_nil]

theorem Goes.kept {addr : String} {params : GuacConnectParams} {labels : List GuacLabel} {self next : GuacProxy}
    {lines : List Bytes} {items : List GuacMessage} {label : GuacLabel}
    (kept : Kept addr params labels self lines items)
    (silent : guacdSent label = [] ∧ browsed label = none)
    (goes : Goes addr params (labels.flatMap guacdSent) lines items self next) :
    ∃ lines items, Kept addr params (labels ++ [label]) next lines items := by
  obtain ⟨moreLines, moreItems, read, inbox, fits⟩ := goes
  refine ⟨lines ++ moreLines, items ++ moreItems, ?_, ?_, fits⟩
  · rw [flatMap_silent silent.1]
    exact read
  · rw [filterMap_append_singleton, silent.2, kept.inbox, inbox, ← List.append_assoc]
    exact List.append_nil _

/-- What only arrives leaves the phase as it is. -/
theorem Fits.arrived {addr : String} {params : GuacConnectParams} {lines : List Bytes} {items : List GuacMessage}
    {self : GuacProxy} (fits : Fits addr params lines items self) {guacd : GuacdStream} {unread : Bytes}
    (inbox : List GuacMessage) (source : guacd = .sending → self.guacd = .sending)
    (drained : self.guacd ≠ .sending → self.unread = [] → unread = []) :
    Fits addr params lines items { self with guacd, unread, inbox } := by
  unfold Fits at fits ⊢
  dsimp only
  split
  · next phase => rw [phase] at fits; exact fits
  · next phase => rw [phase] at fits; exact fits
  · next phase =>
    rw [phase] at fits
    obtain ⟨untaken, written, unsent, args⟩ := fits
    refine ⟨untaken, written, unsent, args.imp_right fun holds => ?_⟩
    exact ⟨fun sending => holds.1 (source sending), drained holds.1 holds.2⟩
  · next phase => rw [phase] at fits; exact fits
  · next phase =>
    rw [phase] at fits
    obtain ⟨untaken, frames, written, selected⟩ := fits
    exact ⟨untaken, frames, written, fun none sending => selected none (source sending)⟩

theorem Kept.step {addr : String} {params : GuacConnectParams} {labels : List GuacLabel} {self next : GuacProxy}
    {lines : List Bytes} {items : List GuacMessage} {label : GuacLabel}
    (kept : Kept addr params labels self lines items)
    (taken : Step addr params self label next) :
    ∃ lines items, Kept addr params (labels ++ [label]) next lines items := by
  cases taken with
  | handshake io taken => exact (kept.fits.handshake kept.read taken).kept kept ⟨rfl, rfl⟩
  | guacdToBrowser io taken => exact (kept.fits.guacdToBrowser kept.read taken).kept kept ⟨rfl, rfl⟩
  | browserToGuacd io taken => exact (kept.fits.browserToGuacd kept.read taken).kept kept ⟨rfl, rfl⟩
  | arrive data sending =>
      have whole := (kept.read.whole sending).arrive data
      refine ⟨lines, items, ⟨fun _ => ?_, ?_⟩, ?_, ?_⟩
      · rw [List.flatMap_append, List.flatMap_singleton]
        exact whole
      · have same := whole (decide (self.guacd = .ended)) []
        rw [List.append_nil, List.append_nil] at same
        rw [List.flatMap_append, List.flatMap_singleton]
        exact same ▸ List.prefix_rfl
      · rw [filterMap_append_singleton]
        exact (List.append_nil _).trans kept.inbox
      · exact kept.fits.arrived _ id fun ended => absurd sending ended
  | guacdEnds sending =>
      have whole := kept.read.whole sending true []
      rw [List.append_nil, List.append_nil] at whole
      refine ⟨lines, items, ⟨(fun sending => by cases sending), ?_⟩, ?_, ?_⟩
      · rw [flatMap_silent rfl]
        exact whole ▸ List.prefix_rfl
      · rw [filterMap_append_singleton]
        exact (List.append_nil _).trans kept.inbox
      · exact kept.fits.arrived _ (fun sending => by cases sending) fun _ => id
  | guacdFails count sending =>
      have whole := kept.read.whole sending false []
      rw [List.append_nil, List.append_nil] at whole
      refine ⟨lines, items, ⟨(fun sending => by cases sending), ?_⟩, ?_, ?_⟩
      · rw [flatMap_silent rfl]
        have front := @linesOf_front _ _ lineFeed false (self.unread.take count) (self.unread.drop count)
        rw [List.take_append_drop] at front
        exact whole ▸ (List.prefix_append_right_inj lines).mpr front
      · rw [filterMap_append_singleton]
        exact (List.append_nil _).trans kept.inbox
      · refine kept.fits.arrived _ (fun sending => by cases sending) fun _ drained => ?_
        rw [drained, List.take_nil]
  | browse msg =>
      refine ⟨lines, items, ⟨fun sending => ?_, ?_⟩, ?_, ?_⟩
      · rw [flatMap_silent rfl]
        exact kept.read.whole sending
      · rw [flatMap_silent rfl]
        exact kept.read.front
      · rw [filterMap_append_singleton, kept.inbox, List.append_assoc]
        rfl
      · exact kept.fits.arrived _ id fun _ => id

theorem kept_of_run {addr : String} {params : GuacConnectParams} {labels : List GuacLabel} {proxy : GuacProxy}
    (run : Steps (Step addr params) start labels proxy) : ∃ lines items, Kept addr params labels proxy lines items := by
  refine run.invariant (fun labels proxy => ∃ lines items, Kept addr params labels proxy lines items) ?_ ?_
  · exact ⟨[], [], ⟨fun _ => .start lineFeed, List.prefix_rfl⟩, rfl, rfl, rfl, rfl, rfl⟩
  · intro labels self label next books taken
    obtain ⟨lines, items, kept⟩ := books
    exact kept.step taken

theorem Kept.front {addr : String} {params : GuacConnectParams} {labels : List GuacLabel} {proxy : GuacProxy}
    {lines : List Bytes} {items : List GuacMessage} (kept : Kept addr params labels proxy lines items) :
    framesOf (decodedLines lines) <+: browserFrames proxy.atEnd (labels.flatMap guacdSent) := by
  obtain ⟨more, same⟩ := (List.prefix_append _ _).trans kept.read.front
  rw [browserFrames, ← same]
  exact framesOf_front (decodedLines_front lines more)

def deskParams : GuacConnectParams where
  host := "desk"
  port := none
  username := none
  password := none
  domain := none
  width := none
  height := none
  dpi := none
  security := defaultSecurity
  ignoreCert := true

/-- guacd has sent these lines, of which the proxy has read some. -/
def opened (phase : GuacPhase) (unread : String) (written : Bytes) (frames : List GuacFrame) : GuacProxy :=
  { start with phase, unread := utf8 unread, written, frames }

/-- guacd has sent a line more, and the browser a text, as the ready line goes out. -/
def waitingLabels : List GuacLabel :=
  [.handshake, .arrive (utf8 "4.args;\n5.ready,1.$;\n4.sync,1.1;\n"), .handshake, .handshake,
    .browse (.text "3.key,2.65;")]

def waitingProxy : GuacProxy :=
  { opened (.relaying true true) "4.sync,1.1;\n" (handshakeBytes deskParams) [.text "5.ready,1.$;"] with
    inbox := [.text "3.key,2.65;"] }

def copiedProxy : GuacProxy :=
  opened (.relaying true true) "" (handshakeBytes deskParams ++ utf8 "3.key,2.65;\n")
    [.text "5.ready,1.$;", .text "4.sync,1.1;"]

theorem waiting_run : Steps (Step "guacd" deskParams) start waitingLabels waitingProxy := by
  have selected : Steps (Step "guacd" deskParams) start _ _ := .single (.handshake .working rfl)
  have arrived := selected.step (.arrive (utf8 "4.args;\n5.ready,1.$;\n4.sync,1.1;\n") rfl)
  have connected : handshake "guacd" deskParams .working
        (opened .readingArgs "4.args;\n5.ready,1.$;\n4.sync,1.1;\n" (utf8 selectInstruction) []) =
      some (opened .readingReady "5.ready,1.$;\n4.sync,1.1;\n" (handshakeBytes deskParams) []) := by
    decide +kernel
  have accepted : handshake "guacd" deskParams .working
        (opened .readingReady "5.ready,1.$;\n4.sync,1.1;\n" (handshakeBytes deskParams) []) =
      some (opened (.relaying true true) "4.sync,1.1;\n" (handshakeBytes deskParams) [.text "5.ready,1.$;"]) := by
    decide +kernel
  have connects := arrived.step (.handshake .working connected)
  exact (connects.step (.handshake .working accepted)).step (.browse _)

theorem copied_run : Steps (Step "guacd" deskParams) start
    (waitingLabels ++ [.guacdToBrowser, .browserToGuacd]) copiedProxy := by
  have copied : guacdToBrowser .working waitingProxy =
      some { copiedProxy with written := handshakeBytes deskParams, inbox := [.text "3.key,2.65;"] } := by
    decide +kernel
  have typed : browserToGuacd .working
      { copiedProxy with written := handshakeBytes deskParams, inbox := [.text "3.key,2.65;"] } =
        some copiedProxy := by
    decide +kernel
  exact (waiting_run.step (.guacdToBrowser .working copied)).step (.browserToGuacd .working typed)

/-- In every run, for every way in which both streams arrive and the tasks take turns: the
browser gets a front part of what the lines of guacd come to, or, when guacd is not there, at
most the error and a Close frame; guacd gets a front part of the handshake and the texts of the browser up to
its first close, and nothing of the browser before the ready line went out. -/
theorem copies_in_order {addr : String} {params : GuacConnectParams} {labels : List GuacLabel} {proxy : GuacProxy}
    (run : Steps (Step addr params) start labels proxy) :
    (proxy.frames <+: browserFrames proxy.atEnd (labels.flatMap guacdSent) ∨
        (proxy.frames.Sublist [.text (guacdError addr), .close] ∧ proxy.written = [])) ∧
      proxy.written <+: guacdBytes params (labels.filterMap browsed) ∧
      (proxy.frames = [] → proxy.written <+: handshakeBytes params) := by
  obtain ⟨lines, items, kept⟩ := kept_of_run run
  have fits := kept.fits
  unfold Fits at fits
  have early (unsent : proxy.frames = []) (written : proxy.written <+: handshakeBytes params) :
      (proxy.frames <+: browserFrames proxy.atEnd (labels.flatMap guacdSent) ∨
          (proxy.frames.Sublist [.text (guacdError addr), .close] ∧ proxy.written = [])) ∧
        proxy.written <+: guacdBytes params (labels.filterMap browsed) ∧
        (proxy.frames = [] → proxy.written <+: handshakeBytes params) :=
    ⟨.inl (unsent ▸ List.nil_prefix), written.trans (List.prefix_append _ _), fun _ => written⟩
  split at fits
  · obtain ⟨_, _, unwritten, unsent⟩ := fits
    exact early unsent (unwritten ▸ List.nil_prefix)
  · obtain ⟨_, _, selected, unsent⟩ := fits
    exact early unsent (selected ▸ List.prefix_append _ _)
  · obtain ⟨_, both, unsent, _⟩ := fits
    exact early unsent (both ▸ List.prefix_rfl)
  · obtain ⟨sent, front, _, written, _⟩ := fits
    refine ⟨.inl (front.trans kept.front), ?_, fun unsent => absurd unsent sent⟩
    rw [kept.inbox]
    exact written.trans (guacdBytes_front params items proxy.inbox)
  · obtain ⟨_, unsent | refused, written, _⟩ := fits
    · exact early unsent written
    · exact ⟨.inr refused, written.trans (List.prefix_append _ _), fun _ => written⟩

theorem copies_in_order_opened :
    copiedProxy.frames <+: browserFrames false (utf8 "4.args;\n5.ready,1.$;\n4.sync,1.1;\n") ∧
      copiedProxy.written <+: guacdBytes deskParams [.text "3.key,2.65;"] := by
  obtain ⟨frames | refused, written, _⟩ := copies_in_order copied_run
  · exact ⟨frames, written⟩
  · exact absurd refused.2 (by decide +kernel)

/-- In every run: as long as guacd, its stream open, has sent no line feed, it gets nothing but
the select instruction and the browser gets no text of guacd, however many instructions
guacd has sent. -/
theorem waits_for_line_feed {addr : String} {params : GuacConnectParams} {labels : List GuacLabel}
    {proxy : GuacProxy} (run : Steps (Step addr params) start labels proxy) (sending : proxy.guacd = .sending)
    (none : lineFeed ∉ labels.flatMap guacdSent) :
    proxy.written <+: utf8 selectInstruction ∧ proxy.frames.Sublist [.text (guacdError addr), .close] := by
  obtain ⟨lines, items, kept⟩ := kept_of_run run
  have unread : lines = [] := by
    have front := kept.read.front
    have open' : proxy.atEnd = false := decide_eq_false (by rw [sending]; exact GuacdStream.noConfusion)
    rw [linesOf_rest none, open', if_neg (fun both => Bool.false_ne_true both.1), List.prefix_nil] at front
    exact (List.append_eq_nil_iff.mp front).1
  have fits := kept.fits
  unfold Fits at fits
  rw [unread] at fits
  split at fits
  · obtain ⟨_, _, unwritten, unsent⟩ := fits
    exact ⟨unwritten ▸ List.nil_prefix, unsent ▸ List.nil_sublist _⟩
  · obtain ⟨_, _, selected, unsent⟩ := fits
    exact ⟨selected ▸ List.prefix_rfl, unsent ▸ List.nil_sublist _⟩
  · obtain ⟨_, _, _, ⟨_, _, one⟩ | ⟨ended, _⟩⟩ := fits
    · cases one
    · exact absurd sending ended
  · obtain ⟨sent, front, _⟩ := fits
    exact absurd (List.prefix_nil.mp front) sent
  · obtain ⟨_, unsent | refused, _, selected⟩ := fits
    · exact ⟨selected rfl sending, unsent ▸ List.nil_sublist _⟩
    · exact ⟨selected rfl sending, refused.1⟩

theorem waits_for_line_feed_args : ∃ proxy,
    Steps (Step "guacd" deskParams) start [.handshake, .arrive (utf8 "4.args,8.hostname;")] proxy ∧
      proxy.unread = utf8 "4.args,8.hostname;" ∧ proxy.written <+: utf8 selectInstruction ∧
      proxy.frames.Sublist [.text (guacdError "guacd"), .close] := by
  have selected : Steps (Step "guacd" deskParams) start _ _ := .single (.handshake .working rfl)
  have arrived := selected.step (.arrive (utf8 "4.args,8.hostname;") rfl)
  exact ⟨_, arrived, rfl, waits_for_line_feed arrived rfl (by decide +kernel)⟩

end GuacProxy

end RdGateway.Server

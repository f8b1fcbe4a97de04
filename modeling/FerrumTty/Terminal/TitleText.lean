import FerrumTty.Predict.PredictionOverlay
import FerrumTty.Terminal.TitleStorage

/-!
# Text through the title filter

The filter takes a byte `0x9d` for an OSC introducer and `0x9c` for its terminator also
where they continue a character. A text passes unchanged exactly when the bytes that it
seems to introduce are terminated again and open no title.
-/

namespace FerrumTty.Terminal

set_option autoImplicit false

open Crypto Predict Runs TitleFilterState

/-- The bytes after an introducer that make a title of it. -/
def OpensTitle (body : Bytes) : Prop :=
  ∃ command ∈ ([[], [0x30], [0x31], [0x32]] : List Bytes), command ++ [0x3b] <+: body

/-- Bytes whose 8-bit introducers are all terminated and open no title. -/
inductive Transparent : Bytes → Prop where
  | nil : Transparent []
  | plain {byte : UInt8} {rest : Bytes} (other : byte ≠ 0x9d) (later : Transparent rest) :
      Transparent (byte :: rest)
  | introduced {body rest : Bytes} (open_ : 0x9c ∉ body) (untitled : ¬ OpensTitle body)
      (later : Transparent rest) : Transparent (0x9d :: (body ++ 0x9c :: rest))

/-- No byte of the text is a C0 control. -/
def Controlless (bytes : Bytes) : Prop := ∀ byte ∈ bytes, 0x20 ≤ byte

theorem or_controlless (low high : UInt8) (marked : 0x80 ≤ high) : 0x20 ≤ low ||| high := by
  rw [UInt8.le_iff_toNat_le, UInt8.toNat_or]
  have grown := @Nat.right_le_or low.toNat high.toNat
  have bound : 128 ≤ high.toNat := UInt8.le_iff_toNat_le.mp marked
  exact Nat.le_trans (by decide : 32 ≤ 128) (Nat.le_trans bound grown)

/-- The bytes of a character of more than one byte are all above the controls. -/
theorem utf8_controlless {character : Char} (printable : isControl character = false) :
    Controlless (String.utf8EncodeChar character) := by
  have large : 32 ≤ character.val.toNat := by
    by_contra small
    have control : isControl character = true := by
      rw [isControl, Bool.or_eq_true]
      exact Or.inl (decide_eq_true (Nat.lt_of_not_le small))
    rw [control] at printable
    cases printable
  intro byte member
  rw [String.utf8EncodeChar_eq_utf8EncodeCharFast] at member
  unfold String.utf8EncodeCharFast at member
  dsimp only at member
  split_ifs at member with ascii two three
  · rw [List.mem_singleton] at member
    rw [member, UInt8.le_iff_toNat_le, UInt32.toNat_toUInt8]
    rw [UInt32.le_iff_toNat_le] at ascii
    change character.val.toNat ≤ 127 at ascii
    change 32 ≤ character.val.toNat % 2 ^ 8
    omega
  all_goals
    simp only [List.mem_cons, List.not_mem_nil, or_false] at member
  · rcases member with rfl | rfl
    · exact or_controlless _ _ (by decide)
    · exact or_controlless _ _ (by decide)
  · rcases member with rfl | rfl | rfl
    · exact or_controlless _ _ (by decide)
    · exact or_controlless _ _ (by decide)
    · exact or_controlless _ _ (by decide)
  · rcases member with rfl | rfl | rfl | rfl
    · exact or_controlless _ _ (by decide)
    · exact or_controlless _ _ (by decide)
    · exact or_controlless _ _ (by decide)
    · exact or_controlless _ _ (by decide)

theorem text_controlless {text : List Char} (printable : ∀ character ∈ text,
    isControl character = false) : Controlless (text.flatMap String.utf8EncodeChar) := by
  intro byte member
  obtain ⟨character, inside, encoded⟩ := List.mem_flatMap.mp member
  exact utf8_controlless (printable character inside) byte encoded

theorem plain_ends_nothing {byte : UInt8} (controlless : 0x20 ≤ byte) (inner : byte ≠ 0x9c) :
    (completesOsc byte || cancelsOsc byte) = false ∧ byte ≠ 0x1b := by
  have above (low : UInt8) (small : low < 0x20) : byte ≠ low := by
    intro same
    rw [same] at controlless
    exact UInt8.not_lt.mpr controlless small
  refine ⟨?_, above 0x1b (by decide)⟩
  rw [completesOsc, cancelsOsc, decide_eq_false (above 0x07 (by decide)), decide_eq_false inner,
    decide_eq_false (above 0x18 (by decide)), decide_eq_false (above 0x1a (by decide))]
  rfl

/-- A header with an 8-bit introducer and these bytes, or the rest of such a sequence. -/
def InRegion (state : TitleFilterState) (read : Bytes) : Prop :=
  (state = .oscHeader (0x9d :: read) false ∧ 0x3b ∉ read) ∨ state = .passthroughOsc false

theorem title_command_opens {read : Bytes} {command : OscTitleCommand}
    (found : titleCommand (0x9d :: read) = some command) : OpensTitle (read ++ [0x3b]) := by
  have known : read ∈ ([[], [0x30], [0x31], [0x32]] : List Bytes) := by
    have body : (0x9d :: read : Bytes).drop (introducerLength (0x9d :: read)) = read := rfl
    have long : ¬ (0x9d :: read : Bytes).length < introducerLength (0x9d :: read) := by
      change ¬ read.length + 1 < 1
      omega
    rw [titleCommand, if_neg long, body] at found
    split at found
    · decide
    · decide
    · decide
    · decide
    · cases found
  exact ⟨read, known, List.prefix_refl _⟩

/-- Inside a region that opens no title a plain byte stays inside it. -/
theorem InRegion.step {filter : TitleOutputFilter} {read : Bytes} {byte : UInt8}
    (region : InRegion filter.state read) (controlless : 0x20 ≤ byte) (inner : byte ≠ 0x9c)
    (untitled : ¬ OpensTitle (read ++ [byte])) :
    InRegion (filter.processByte byte).2.state (read ++ [byte]) := by
  obtain ⟨ends, escape⟩ := plain_ends_nothing controlless inner
  unfold TitleOutputFilter.processByte
  rcases region with ⟨header, unseparated⟩ | passing
  · rw [header]
    change InRegion (headerByte (0x9d :: read) byte).2 _
    unfold headerByte
    rw [ends, if_neg Bool.false_ne_true, if_neg escape]
    by_cases separator : byte = 0x3b
    · rw [if_pos separator]
      cases command : titleCommand (0x9d :: read) with
      | some command =>
          rw [separator] at untitled
          exact absurd (title_command_opens command) untitled
      | none => exact Or.inr rfl
    · rw [if_neg separator]
      split_ifs with long
      · exact Or.inr rfl
      · refine Or.inl ⟨rfl, ?_⟩
        intro member
        rcases List.mem_append.mp member with earlier | here
        · exact unseparated earlier
        · exact separator (List.mem_singleton.mp here).symm
  · rw [passing]
    change InRegion (passthroughByte false byte).2 _
    unfold passthroughByte
    rw [Bool.false_and, if_neg Bool.false_ne_true, ends, if_neg Bool.false_ne_true, if_neg escape]
    exact Or.inr rfl

theorem InRegion.outside {state : TitleFilterState} {read : Bytes} (region : InRegion state read) :
    state.inTitle = false ∧ state ≠ .ground := by
  rcases region with ⟨header, _⟩ | passing
  · rw [header]
    exact ⟨rfl, by intro same; cases same⟩
  · rw [passing]
    exact ⟨rfl, by intro same; cases same⟩

theorem InRegion.terminate {filter : TitleOutputFilter} {read : Bytes}
    (region : InRegion filter.state read) : (filter.processByte 0x9c).2.state = .ground := by
  unfold TitleOutputFilter.processByte
  rcases region with ⟨header, _⟩ | passing
  · rw [header]
    rfl
  · rw [passing]
    rfl

theorem OpensTitle.append {body : Bytes} (opens : OpensTitle body) (more : Bytes) :
    OpensTitle (body ++ more) := by
  obtain ⟨command, known, opened⟩ := opens
  exact ⟨command, known, opened.trans (List.prefix_append body more)⟩

theorem InRegion.stream {filter : TitleOutputFilter} {read body : Bytes}
    (region : InRegion filter.state read) (controlless : Controlless body) (open_ : 0x9c ∉ body)
    (untitled : ¬ OpensTitle (read ++ body)) :
    InRegion (final TitleOutputFilter.processByte filter body).state (read ++ body) := by
  induction body generalizing filter read with
  | nil =>
      rw [List.append_nil]
      exact region
  | cons byte rest induction =>
      have split : read ++ byte :: rest = read ++ [byte] ++ rest := List.append_cons read byte rest
      rw [split] at untitled ⊢
      apply induction
      · apply region.step (controlless byte List.mem_cons_self)
        · intro same
          exact open_ (by rw [same]; exact List.mem_cons_self)
        · intro opens
          exact untitled (opens.append rest)
      · intro other member
        exact controlless other (List.mem_cons_of_mem _ member)
      · intro member
        exact open_ (List.mem_cons_of_mem _ member)
      · exact untitled

namespace TitleOutputFilter

variable {filter : TitleOutputFilter}

theorem introduced_region (start : filter.state = .ground) :
    InRegion (filter.processByte 0x9d).2.state [] := by
  unfold processByte
  rw [start]
  exact Or.inl ⟨rfl, by intro member; cases member⟩

theorem plain_step (start : filter.state = .ground) {byte : UInt8} (controlless : 0x20 ≤ byte)
    (other : byte ≠ 0x9d) : filter.processByte byte = ([byte], filter) := by
  have escape : byte ≠ 0x1b := by
    intro same
    rw [same] at controlless
    exact UInt8.not_lt.mpr controlless (by decide)
  unfold processByte
  rw [start]
  dsimp only
  rw [if_neg escape, if_neg other]

/-- A terminated region that opens no title passes as a whole. -/
theorem region_passes (start : filter.state = .ground) {body : Bytes}
    (controlless : Controlless body) (open_ : 0x9c ∉ body) (untitled : ¬ OpensTitle body) :
    (outputs processByte filter (0x9d :: (body ++ [0x9c]))).flatten = 0x9d :: (body ++ [0x9c]) ∧
      (final processByte filter (0x9d :: (body ++ [0x9c]))).state = .ground := by
  have inside (earlier : Bytes) (prefixed : earlier <+: body) :
      InRegion (final processByte filter (0x9d :: earlier)).state earlier := by
    obtain ⟨later, rfl⟩ := prefixed
    apply (introduced_region start).stream
    · intro byte member
      exact controlless byte (List.mem_append_left _ member)
    · intro member
      exact open_ (List.mem_append_left _ member)
    · intro opens
      exact untitled (opens.append later)
  have ended : (final processByte filter (0x9d :: (body ++ [0x9c]))).state = .ground := by
    have whole := (inside body (List.prefix_refl body)).terminate
    rwa [← final_concat] at whole
  have conserved := @stream_conserves filter (0x9d :: (body ++ [0x9c])) fun earlier prefixed => by
    cases earlier with
    | nil =>
        rw [final_nil, start]
        rfl
    | cons byte earlier =>
        obtain ⟨same, tail⟩ := List.cons_prefix_cons.mp prefixed
        rw [same]
        rcases List.prefix_concat_iff.mp tail with whole | within
        · rw [whole, ended]
          rfl
        · exact (inside earlier within).outside.1
  rw [ended, start] at conserved
  refine ⟨?_, ended⟩
  rw [held, List.append_nil] at conserved
  exact conserved

theorem transparent_passes {bytes : Bytes} (transparent : Transparent bytes)
    (start : filter.state = .ground) (controlless : Controlless bytes) :
    (outputs processByte filter bytes).flatten = bytes ∧
      (final processByte filter bytes).state = .ground := by
  induction transparent generalizing filter with
  | nil => exact ⟨rfl, start⟩
  | @plain byte rest other _ induction =>
      have step := plain_step start (controlless byte List.mem_cons_self) other
      obtain ⟨passed, ended⟩ := induction start fun later member =>
        controlless later (List.mem_cons_of_mem _ member)
      rw [outputs_cons, final_cons, step]
      exact ⟨congrArg (List.cons byte) passed, ended⟩
  | @introduced body rest open_ untitled _ induction =>
      have split : (0x9d :: (body ++ 0x9c :: rest) : Bytes) = 0x9d :: (body ++ [0x9c]) ++ rest := by
        rw [List.cons_append, List.append_assoc]
        rfl
      obtain ⟨region, ground⟩ := region_passes start (fun byte member =>
        controlless byte (List.mem_cons_of_mem _ (List.mem_append_left _ member))) open_ untitled
      obtain ⟨passed, ended⟩ := induction ground fun byte member =>
        controlless byte (List.mem_cons_of_mem _
          (List.mem_append_right _ (List.mem_cons_of_mem _ member)))
      rw [split, outputs_append, List.flatten_append, region, passed, final_append]
      exact ⟨rfl, ended⟩

theorem emit_titles_escape (filter : TitleOutputFilter) :
    filter.emitTitles.1 = [] ∨ (0x1b : UInt8) ∈ filter.emitTitles.1 := by
  rcases filter.emit_titles_output with nothing | titles
  · exact Or.inl nothing
  · refine Or.inr ?_
    rw [titles, encodeTitles]
    split_ifs
    · exact List.mem_cons_self
    · exact List.mem_cons_self

theorem title_byte_output (filter : TitleOutputFilter) (command : OscTitleCommand) (bytes : Bytes)
    (escapePending : Bool) (byte : UInt8) :
    ((filter.titleByte command bytes escapePending byte).1 = [] ∨
      (0x1b : UInt8) ∈ (filter.titleByte command bytes escapePending byte).1) ∧
    (filter.titleByte command bytes escapePending byte).2.state.held = [] := by
  have completed (command : OscTitleCommand) (bytes : Bytes) :
      ({ filter with state := .ground }.setRemoteTitle command bytes).emitTitles.2.state.held = [] := by
    rw [completed_state]
    rfl
  have pended (bytes : Bytes) (capacityReached : Bool) :
      ((filter.pendedTitleByte command bytes capacityReached byte).1 = [] ∨
        (0x1b : UInt8) ∈ (filter.pendedTitleByte command bytes capacityReached byte).1) ∧
      (filter.pendedTitleByte command bytes capacityReached byte).2.state.held = [] := by
    unfold pendedTitleByte
    split_ifs
    · exact ⟨emit_titles_escape _, completed command bytes⟩
    · exact ⟨Or.inl rfl, rfl⟩
    · exact ⟨Or.inl rfl, rfl⟩
    · exact ⟨Or.inl rfl, rfl⟩
    · exact ⟨Or.inl rfl, rfl⟩
  unfold titleByte
  split_ifs
  · exact ⟨emit_titles_escape _, completed command bytes⟩
  · exact pended _ false
  · exact pended _ true
  · exact pended _ false

theorem entering_title (filter : TitleOutputFilter) (byte : UInt8)
    (before : filter.state.inTitle = false)
    (after : (filter.processByte byte).2.state.inTitle = true) :
    (filter.processByte byte).1 = [] ∧ (filter.processByte byte).2.state.held = [] := by
  have header (bytes : Bytes) (titled : (headerByte bytes byte).2.inTitle = true) :
      (headerByte bytes byte).1 = [] ∧ (headerByte bytes byte).2.held = [] := by
    unfold headerByte at titled ⊢
    split_ifs at titled ⊢
    · cases titled
    · cases titled
    · cases command : titleCommand bytes with
      | some command => exact ⟨rfl, rfl⟩
      | none =>
          rw [command] at titled
          cases titled
    · cases titled
    · cases titled
  unfold processByte at after ⊢
  cases state : filter.state with
  | ground =>
      rw [state] at after
      dsimp only at after
      split_ifs at after
      · cases after
      · cases after
      · rw [before] at after
        cases after
  | escape =>
      rw [state] at after
      dsimp only at after
      split_ifs at after
      · cases after
      · cases after
  | oscHeader bytes escapePending =>
      rw [state] at after
      change (oscHeaderByte bytes escapePending byte).2.inTitle = true at after
      change (oscHeaderByte bytes escapePending byte).1 = [] ∧
        (oscHeaderByte bytes escapePending byte).2.held = []
      unfold oscHeaderByte at after ⊢
      split_ifs at after ⊢
      · cases after
      · exact header _ after
      · exact header _ after
  | passthroughOsc escapePending =>
      rw [state] at after
      rw [(passthrough_byte_conserves escapePending byte).2.2] at after
      cases after
  | title command bytes escapePending => rw [state] at before; cases before
  | discardTitle escapePending => rw [state] at before; cases before

/-- A byte adds at most one byte to the output and what is held back, or a title. -/
theorem process_byte_length (filter : TitleOutputFilter) (byte : UInt8) :
    (0x1b : UInt8) ∈ (filter.processByte byte).1 ∨
      (filter.processByte byte).1.length + (filter.processByte byte).2.state.held.length ≤
        filter.state.held.length + 1 := by
  by_cases before : filter.state.inTitle = true
  · have quiet : ((filter.processByte byte).1 = [] ∨ (0x1b : UInt8) ∈ (filter.processByte byte).1) ∧
        (filter.processByte byte).2.state.held = [] := by
      unfold processByte
      cases state : filter.state with
      | title command bytes escapePending => exact filter.title_byte_output command bytes _ byte
      | discardTitle escapePending =>
          refine ⟨Or.inl rfl, ?_⟩
          dsimp only
          unfold discardByte
          split_ifs <;> rfl
      | ground => rw [state] at before; cases before
      | escape => rw [state] at before; cases before
      | oscHeader bytes escapePending => rw [state] at before; cases before
      | passthroughOsc escapePending => rw [state] at before; cases before
    rcases quiet with ⟨nothing | escape, released⟩
    · refine Or.inr ?_
      rw [nothing, released]
      exact Nat.zero_le _
    · exact Or.inl escape
  · by_cases after : (filter.processByte byte).2.state.inTitle = true
    · have entered : (filter.processByte byte).1 = [] ∧
          (filter.processByte byte).2.state.held = [] :=
        filter.entering_title byte (Bool.eq_false_of_not_eq_true before) after
      refine Or.inr ?_
      rw [entered.1, entered.2]
      exact Nat.zero_le _
    · have conserved := process_byte_conserves (Bool.eq_false_of_not_eq_true before)
        (Bool.eq_false_of_not_eq_true after)
      have length := congrArg List.length conserved
      rw [List.length_append, List.length_append] at length
      exact Or.inr (Nat.le_of_eq length)

theorem stream_length (filter : TitleOutputFilter) (stream : Bytes) :
    (0x1b : UInt8) ∈ (outputs processByte filter stream).flatten ∨
      (outputs processByte filter stream).flatten.length +
        (final processByte filter stream).state.held.length ≤
          filter.state.held.length + stream.length := by
  induction stream generalizing filter with
  | nil => exact Or.inr (by simp [outputs])
  | cons byte rest induction =>
      rw [outputs_cons, List.flatten_cons, final_cons, List.mem_append, List.length_append,
        List.length_cons]
      rcases filter.process_byte_length byte with escape | step
      · exact Or.inl (Or.inl escape)
      · rcases induction (filter.processByte byte).2 with escape | later
        · exact Or.inl (Or.inr escape)
        · exact Or.inr (by omega)

/-- A text that opens a title comes out shorter or with an ESC in it. -/
theorem titled_differs (start : filter.state = .ground) {body : Bytes} (titled : OpensTitle body)
    (controlless : Controlless (0x9d :: body)) :
    (outputs processByte filter (0x9d :: body)).flatten ≠ 0x9d :: body := by
  obtain ⟨command, known, others, split⟩ := titled
  have opened : (outputs processByte filter (0x9d :: (command ++ [0x3b]))).flatten = [] ∧
      (final processByte filter (0x9d :: (command ++ [0x3b]))).state.held = [] := by
    obtain ⟨policy, state, remote, prefixActive, displayed⟩ := filter
    dsimp only at start
    subst start
    simp only [List.mem_cons, List.not_mem_nil, or_false] at known
    rcases known with rfl | rfl | rfl | rfl
    · exact ⟨rfl, rfl⟩
    · exact ⟨rfl, rfl⟩
    · exact ⟨rfl, rfl⟩
    · exact ⟨rfl, rfl⟩
  have parts : 0x9d :: body = 0x9d :: (command ++ [0x3b]) ++ others := by
    rw [← split]
    rfl
  have length := stream_length (final processByte filter (0x9d :: (command ++ [0x3b]))) others
  rw [parts, outputs_append, List.flatten_append, opened.1, List.nil_append]
  intro same
  rw [same, opened.2] at length
  rcases length with escape | short
  · rw [← parts] at escape
    exact absurd (controlless 0x1b escape) (by decide)
  · simp only [List.length_append, List.length_cons, List.length_nil] at short
    omega

/-- Somewhere inside an OSC, with no ESC pending. -/
def InsideOsc : TitleFilterState → Prop
  | .oscHeader _ escapePending => escapePending = false
  | .title _ _ escapePending => escapePending = false
  | .passthroughOsc escapePending => escapePending = false
  | .discardTitle escapePending => escapePending = false
  | _ => False

theorem InsideOsc.step (inside : InsideOsc filter.state) {byte : UInt8}
    (controlless : 0x20 ≤ byte) (inner : byte ≠ 0x9c) :
    InsideOsc (filter.processByte byte).2.state := by
  obtain ⟨ends, escape⟩ := plain_ends_nothing controlless inner
  obtain ⟨completes, cancels⟩ := Bool.or_eq_false_iff.mp ends
  unfold processByte
  cases state : filter.state with
  | ground => rw [state] at inside; cases inside
  | escape => rw [state] at inside; cases inside
  | oscHeader bytes escapePending =>
      rw [state] at inside
      cases inside
      change InsideOsc (headerByte bytes byte).2
      unfold headerByte
      rw [ends, if_neg Bool.false_ne_true, if_neg escape]
      split_ifs
      · cases titleCommand bytes with
        | some command => rfl
        | none => rfl
      · rfl
      · rfl
  | title command bytes escapePending =>
      rw [state] at inside
      cases inside
      change InsideOsc (filter.pendedTitleByte command bytes false byte).2.state
      unfold pendedTitleByte
      rw [completes, if_neg Bool.false_ne_true, cancels, if_neg Bool.false_ne_true, if_neg escape]
      split_ifs
      · rfl
      · rfl
  | passthroughOsc escapePending =>
      rw [state] at inside
      cases inside
      change InsideOsc (passthroughByte false byte).2
      unfold passthroughByte
      rw [Bool.false_and, if_neg Bool.false_ne_true, ends, if_neg Bool.false_ne_true,
        if_neg escape]
      rfl
  | discardTitle escapePending =>
      rw [state] at inside
      cases inside
      change InsideOsc (discardByte false byte)
      unfold discardByte
      rw [Bool.false_and, if_neg Bool.false_ne_true, ends, if_neg Bool.false_ne_true,
        if_neg escape]
      rfl

theorem InsideOsc.stream (inside : InsideOsc filter.state) {stream : Bytes}
    (controlless : Controlless stream) (unterminated : 0x9c ∉ stream) :
    InsideOsc (final processByte filter stream).state := by
  induction stream generalizing filter with
  | nil => exact inside
  | cons byte rest induction =>
      apply induction
      · apply inside.step (controlless byte List.mem_cons_self)
        intro same
        exact unterminated (by rw [same]; exact List.mem_cons_self)
      · intro later member
        exact controlless later (List.mem_cons_of_mem _ member)
      · intro member
        exact unterminated (List.mem_cons_of_mem _ member)

theorem unterminated_not_ground (start : filter.state = .ground) {rest : Bytes}
    (controlless : Controlless rest) (unterminated : 0x9c ∉ rest) :
    (final processByte filter (0x9d :: rest)).state ≠ .ground := by
  have opened : InsideOsc (filter.processByte 0x9d).2.state := by
    unfold processByte
    rw [start]
    rfl
  have inside := opened.stream controlless unterminated
  intro ground
  rw [final_cons] at ground
  rw [ground] at inside
  cases inside

theorem passes_transparent {filter : TitleOutputFilter} {bytes : Bytes}
    (start : filter.state = .ground)
    (controlless : Controlless bytes)
    (passed : (outputs processByte filter bytes).flatten = bytes)
    (ended : (final processByte filter bytes).state = .ground) : Transparent bytes := by
  cases bytes with
  | nil => exact .nil
  | cons byte rest =>
      have later : Controlless rest := fun other member =>
        controlless other (List.mem_cons_of_mem _ member)
      by_cases introducer : byte = 0x9d
      · rw [introducer] at passed ended controlless ⊢
        by_cases terminated : 0x9c ∈ rest
        · obtain ⟨body, more, split, open_⟩ := List.eq_append_cons_of_mem terminated
          by_cases titled : OpensTitle body
          · have opens : OpensTitle rest := by
              rw [split]
              exact titled.append (0x9c :: more)
            exact absurd passed (titled_differs start opens controlless)
          · have parts : (0x9d :: rest : Bytes) = 0x9d :: (body ++ [0x9c]) ++ more := by
              rw [split, List.cons_append, List.append_assoc]
              rfl
            have inner : Controlless body := fun other member =>
              later other (by rw [split]; exact List.mem_append_left _ member)
            obtain ⟨region, ground⟩ := region_passes start inner open_ titled
            rw [parts, outputs_append, List.flatten_append, region] at passed
            rw [parts, final_append] at ended
            have shorter : more.length < (byte :: rest).length := by
              rw [split, List.length_cons, List.length_append, List.length_cons]
              omega
            rw [split]
            apply Transparent.introduced open_ titled
            apply passes_transparent ground _ (List.append_cancel_left passed) ended
            intro other member
            exact later other (by
              rw [split]
              exact List.mem_append_right _ (List.mem_cons_of_mem _ member))
        · exact absurd ended (unterminated_not_ground start later terminated)
      · have step := plain_step start (controlless byte List.mem_cons_self) introducer
        rw [outputs_cons, step, List.flatten_cons] at passed
        rw [final_cons, step] at ended
        exact .plain introducer (passes_transparent start later (List.cons.inj passed).2 ended)
termination_by bytes.length

/-- A text without control characters passes unchanged, and leaves the filter in Ground,
exactly when the introducers among its bytes are terminated and open no title. -/
theorem text_transparent_iff (mosh : filter.policy = .moshPrefix) (start : filter.state = .ground)
    {text : List Char} (printable : ∀ character ∈ text, isControl character = false) :
    ((filter.process (text.flatMap String.utf8EncodeChar)).1 =
        text.flatMap String.utf8EncodeChar ∧
      (filter.process (text.flatMap String.utf8EncodeChar)).2.state = .ground) ↔
        Transparent (text.flatMap String.utf8EncodeChar) := by
  have controlless := text_controlless printable
  rw [process_eq mosh]
  constructor
  · intro passes
    exact passes_transparent start controlless passes.1 passes.2
  · intro transparent
    exact transparent_passes transparent start controlless

/-- The filter takes the last byte of a closing quotation mark for an introducer. -/
theorem quotation_mark_withheld :
    ¬ ∀ (filter : TitleOutputFilter), filter.policy = .moshPrefix → filter.state = .ground →
      ∀ text : List Char, (∀ character ∈ text, isControl character = false) →
        (filter.process (text.flatMap String.utf8EncodeChar)).1 =
            text.flatMap String.utf8EncodeChar ∧
          (filter.process (text.flatMap String.utf8EncodeChar)).2.state = .ground := by
  intro transparent
  have printable : ∀ character ∈ ['”'], isControl character = false := by
    intro character member
    rw [List.mem_singleton.mp member]
    decide
  have passed := (transparent (new .moshPrefix) rfl rfl ['”'] printable).2
  exact absurd passed (by decide)

/-- An opening quotation mark ends in the terminator's byte, which no introducer precedes. -/
theorem opening_mark_passes :
    ((new .moshPrefix).process (['“'].flatMap String.utf8EncodeChar)).1 =
      ['“'].flatMap String.utf8EncodeChar := by
  have transparent : Transparent (['“'].flatMap String.utf8EncodeChar) :=
    .plain (by decide) (.plain (by decide) (.plain (by decide) .nil))
  have printable : ∀ character ∈ ['“'], isControl character = false := by
    intro character member
    rw [List.mem_singleton.mp member]
    decide
  exact ((text_transparent_iff rfl rfl printable).mpr transparent).1

end TitleOutputFilter

end FerrumTty.Terminal

import FerrumTty.Client.CommandLine
import Mathlib.Data.List.Lemmas

/-!
# The grammar of the command line

The loops of `parse_command` read exactly the command lines of a grammar: options of `v`s, with a
description attached or as the next argument, between the positional arguments, up to the end or a
double dash. The descriptions that the wrapper passes leave no trace in the result.
-/

namespace FerrumTty.Client

set_option autoImplicit false

open Predict

/-- An option of so many `v`s and what follows them. -/
def flags (count : Nat) (tail : List Char) : Argument := '-' :: (List.replicate count 'v' ++ tail)

/-- Some of the words are read, with so many `v`s and these positional arguments among them. -/
inductive Reads : List Argument → Nat → List Argument → List Argument → Prop
  | start (rest : List Argument) : Reads rest 0 [] rest
  | positional {words positionals rest : List Argument} {count : Nat} (word : Argument)
      (plain : isOption word = false) (reads : Reads words count positionals rest) :
      Reads (word :: words) count (word :: positionals) rest
  | verbose {words positionals rest : List Argument} {count : Nat} (more : Nat)
      (reads : Reads words count positionals rest) :
      Reads (flags (more + 1) [] :: words) (more + 1 + count) positionals rest
  | attached {words positionals rest : List Argument} {count : Nat} (more : Nat)
      (character : Char) (text : List Char) (reads : Reads words count positionals rest) :
      Reads (flags more ('#' :: character :: text) :: words) (more + count) positionals rest
  | described {words positionals rest : List Argument} {count : Nat} (more : Nat)
      (description : Argument) (reads : Reads words count positionals rest) :
      Reads (flags more ['#'] :: description :: words) (more + count) positionals rest

/-- A command line with so many `v`s and these positional arguments, a double dash perhaps in it. -/
inductive CommandLine (words : List Argument) (count : Nat) : List Argument → Prop
  | ends {positionals : List Argument} (reads : Reads words count positionals []) :
      CommandLine words count positionals
  | dashes {positionals behind : List Argument}
      (reads : Reads words count positionals (['-', '-'] :: behind)) :
      CommandLine words count (positionals ++ behind)

/-- The words come to a `c` in an option. -/
def AsksColors (words : List Argument) : Prop :=
  ∃ count positionals more tail behind, Reads words count positionals (flags more ('c' :: tail) :: behind)

def capped (count : Nat) : UInt8 := UInt8.ofNat (min count 3)

section Options

theorem capped_next (count : Nat) :
    (if capped count < MAX_VERBOSITY then capped count + 1 else MAX_VERBOSITY) = capped (count + 1) := by
  match count with
  | 0 => rfl
  | 1 => rfl
  | 2 => rfl
  | count + 3 =>
      have full : min (count + 3) 3 = 3 := by omega
      have fuller : min (count + 3 + 1) 3 = 3 := by omega
      rw [capped, capped, full, fuller]
      rfl

/-- What an option is, from what was read of it. -/
inductive OptionCase (count : Nat) : List Char → OptionEnd → Prop
  | read (more : Nat) : OptionCase count (List.replicate more 'v') (.read (capped (count + more)))
  | description (more : Nat) (text : List Char) :
      OptionCase count (List.replicate more 'v' ++ '#' :: text)
        (.description (capped (count + more)) text.isEmpty)
  | colors (more : Nat) (text : List Char) :
      OptionCase count (List.replicate more 'v' ++ 'c' :: text) .colors
  | refused (characters : List Char) : OptionCase count characters .refused

theorem OptionCase.another {count : Nat} {characters : List Char} {result : OptionEnd}
    (known : OptionCase (count + 1) characters result) :
    OptionCase count ('v' :: characters) result := by
  cases known with
  | read more =>
      rw [Nat.add_right_comm]
      exact .read (more + 1)
  | description more text =>
      rw [Nat.add_right_comm]
      exact .description (more + 1) text
  | colors more text => exact .colors (more + 1) text
  | refused _ => exact .refused _

theorem option_cases (count : Nat) (characters : List Char) :
    OptionCase count characters (readOption (capped count) characters) := by
  induction characters generalizing count with
  | nil => exact .read 0
  | cons character rest induction =>
      unfold readOption
      split
      · rename_i same
        cases same
      · rename_i same
        cases same
        rw [capped_next]
        exact (induction (count + 1)).another
      · rename_i same
        cases same
        exact .colors 0 _
      · rename_i same
        cases same
        exact .description 0 _
      · exact .refused _

theorem read_flags (count more : Nat) (tail : List Char) :
    readOption (capped count) (List.replicate more 'v' ++ tail) =
      readOption (capped (count + more)) tail := by
  induction more generalizing count with
  | zero => rfl
  | succ more induction =>
      rw [List.replicate_succ, List.cons_append, readOption, capped_next, induction,
        Nat.add_right_comm]
      rfl

end Options

section Words

variable {words positionals rest : List Argument} {count : Nat}

theorem flags_option (more : Nat) (tail : List Char) (long : more ≠ 0 ∨ tail ≠ []) :
    isOption (flags more tail) = true := by
  have behind : List.replicate more 'v' ++ tail ≠ [] := by
    intro empty
    obtain ⟨none, nothing⟩ := List.append_eq_nil_iff.mp empty
    rcases long with some | some
    · exact some (List.replicate_eq_nil_iff _ |>.mp none)
    · exact some nothing
  simp [isOption, flags, behind]

theorem flags_not_long (more : Nat) {tail name : List Char} (other : tail.head? ≠ some '-') :
    flags more tail ≠ '-' :: '-' :: name := by
  intro same
  unfold flags at same
  have behind := List.tail_eq_of_cons_eq same
  cases more with
  | zero =>
      rw [List.replicate_zero, List.nil_append] at behind
      rw [behind] at other
      exact other rfl
  | succ more =>
      rw [List.replicate_succ, List.cons_append] at behind
      exact absurd (List.head_eq_of_cons_eq behind) (by decide)

theorem Reads.loop (reads : Reads words count positionals rest) (before : Nat)
    (earlier : List Argument) :
    readArguments (capped before) earlier words =
      readArguments (capped (before + count)) (earlier ++ positionals) rest := by
  induction reads generalizing before earlier with
  | start rest => rw [Nat.add_zero, List.append_nil]
  | positional word plain _ induction =>
      have notDashes : word ≠ ['-', '-'] := by
        intro same
        rw [same] at plain
        cases plain
      rw [readArguments, if_neg notDashes, plain, if_neg Bool.false_ne_true, induction,
        List.append_assoc]
      rfl
  | verbose more _ induction =>
      have option := read_flags before (more + 1) []
      rw [List.append_nil] at option
      rw [readArguments, if_neg (flags_not_long _ (by simp)),
        if_pos (flags_option _ _ (Or.inl (Nat.succ_ne_zero more))), flags, List.tail_cons,
        List.append_nil, option]
      change readArguments (capped (before + (more + 1))) earlier _ = _
      rw [induction, Nat.add_assoc]
  | attached more character text _ induction =>
      rw [readArguments, if_neg (flags_not_long _ (by simp)),
        if_pos (flags_option _ _ (Or.inr (by simp))), flags, List.tail_cons, read_flags]
      change readArguments (capped (before + more)) earlier _ = _
      rw [induction, Nat.add_assoc]
  | described more description _ induction =>
      rw [readArguments, if_neg (flags_not_long _ (by simp)),
        if_pos (flags_option _ _ (Or.inr (by simp))), flags, List.tail_cons, read_flags]
      change readArguments (capped (before + more)) earlier _ = _
      rw [induction, Nat.add_assoc]

/-- What the loop makes of the words is what the grammar says of them. -/
def Understood (words : List Argument) (before : Nat) (earlier : List Argument) : ArgumentsRead → Prop
  | .colors => AsksColors words
  | .positionals verbosity all => ∃ count positionals, CommandLine words count positionals ∧
      verbosity = capped (before + count) ∧ all = earlier ++ positionals

theorem Understood.behind (first word : List Argument) (more : Nat) {before : Nat}
    {earlier : List Argument} {result : ArgumentsRead}
    (step : ∀ {count : Nat} {positionals rest : List Argument}, Reads words count positionals rest →
      Reads (first ++ words) (more + count) (word ++ positionals) rest)
    (understood : Understood words (before + more) (earlier ++ word) result) :
    Understood (first ++ words) before earlier result := by
  cases result with
  | colors =>
      obtain ⟨count, positionals, flagCount, tail, behind, reads⟩ := understood
      exact ⟨_, _, flagCount, tail, behind, step reads⟩
  | positionals verbosity all =>
      obtain ⟨count, positionals, line, verbose, same⟩ := understood
      refine ⟨more + count, word ++ positionals, ?_, ?_, ?_⟩
      · cases line with
        | ends reads => exact .ends (step reads)
        | dashes reads =>
            rw [← List.append_assoc]
            exact .dashes (step reads)
      · rw [verbose, Nat.add_assoc]
      · rw [same, List.append_assoc]

theorem option_flags {argument : Argument} (option : isOption argument = true) :
    argument = '-' :: argument.tail := by
  cases argument with
  | nil => cases option
  | cons first rest =>
      simp only [isOption, List.head?_cons, Bool.and_eq_true, decide_eq_true_eq, Option.some.injEq]
        at option
      rw [option.1, List.tail_cons]

theorem read_arguments_understood (before : Nat) (earlier : List Argument) {result : ArgumentsRead}
    (read : readArguments (capped before) earlier words = some result) :
    Understood words before earlier result := by
  -- an option whose description stands apart takes two words
  induction size : words.length using Nat.strong_induction_on generalizing words before earlier with
  | _ size induction =>
      subst size
      cases words with
      | nil =>
          cases read
          exact ⟨0, [], .ends (.start []), rfl, (List.append_nil _).symm⟩
      | cons argument rest =>
          have shorter : rest.length < (argument :: rest).length := Nat.lt_succ_self _
          unfold readArguments at read
          split_ifs at read with dashes option
          · cases read
            rw [dashes]
            exact ⟨0, [] ++ rest, .dashes (.start _), rfl, rfl⟩
          · have same := option_flags option
            generalize argument.tail = characters at read same
            have known := option_cases before characters
            generalize readOption (capped before) characters = ending at read known
            subst same
            cases known with
            | read more =>
                have positive : ∃ fewer, more = fewer + 1 := by
                  cases more with
                  | zero => cases option
                  | succ fewer => exact ⟨fewer, rfl⟩
                obtain ⟨fewer, same⟩ := positive
                subst same
                have later := induction _ shorter _ earlier read rfl
                have word : '-' :: List.replicate (fewer + 1) 'v' = flags (fewer + 1) [] := by
                  rw [flags, List.append_nil]
                rw [word]
                apply Understood.behind [flags (fewer + 1) []] [] (fewer + 1)
                  (fun reads => .verbose fewer reads)
                rw [List.append_nil]
                exact later
            | description more text =>
                cases text with
                | nil =>
                    cases rest with
                    | nil => cases read
                    | cons description behind =>
                        have later := induction _ (Nat.lt_trans (Nat.lt_succ_self _) shorter) _ earlier
                          read rfl
                        apply Understood.behind [flags more ['#'], description] [] more
                          (fun reads => .described more description reads)
                        rw [List.append_nil]
                        exact later
                | cons character text =>
                    have later := induction _ shorter _ earlier read rfl
                    apply Understood.behind [flags more ('#' :: character :: text)] [] more
                      (fun reads => .attached more character text reads)
                    rw [List.append_nil]
                    exact later
            | colors more text =>
                cases read
                exact ⟨0, [], more, text, rest, .start _⟩
            | refused _ => cases read
          · have plain := Bool.eq_false_iff.mpr option
            have later := induction _ shorter before _ read rfl
            apply Understood.behind [argument] [argument] 0
              (fun reads => by rw [Nat.zero_add]; exact .positional argument plain reads)
            exact later

theorem read_arguments_iff (result : ArgumentsRead) :
    readArguments 0 [] words = some result ↔ Understood words 0 [] result := by
  constructor
  · exact read_arguments_understood 0 []
  · intro understood
    cases result with
    | colors =>
        obtain ⟨count, positionals, more, tail, behind, reads⟩ := understood
        have loop := reads.loop 0 []
        change readArguments 0 [] words = _ at loop
        rw [loop, readArguments, if_neg (flags_not_long _ (by simp)),
          if_pos (flags_option _ _ (Or.inr (by simp))), flags, List.tail_cons, read_flags]
        rfl
    | positionals verbosity all =>
        obtain ⟨count, positionals, line, verbose, same⟩ := understood
        rw [verbose, same]
        cases line with
        | ends reads => exact reads.loop 0 []
        | dashes reads =>
            have loop := reads.loop 0 []
            change readArguments 0 [] words = _ at loop
            rw [loop, readArguments, if_pos rfl]
            rfl

end Words

/-- A port as it may be written: digits, behind a plus sign perhaps. -/
structure WritesPort (text : Argument) (digits : List Char) : Prop where
  written : text = digits ∨ text = '+' :: digits
  nonempty : digits ≠ []
  numerals : ∀ digit ∈ digits, isNumeral digit = true
  positive : 0 < numberOf digits
  small : numberOf digits < 2 ^ 16

inductive EscapeSetting : Option Argument → UInt8 → Prop
  | unset : EscapeSetting none Cli.DEFAULT_ESCAPE_BYTE
  | key (character : Char) (low : 1 ≤ character.toNat) (high : character.toNat ≤ 127) :
      EscapeSetting (some [character]) (UInt8.ofNat character.toNat)

inductive DisplaySetting : Option Argument → PredictionDisplay → Prop
  | unset : DisplaySetting none .adaptive
  | adaptive : DisplaySetting (some "adaptive".toList) .adaptive
  | always : DisplaySetting (some "always".toList) .always
  | never : DisplaySetting (some "never".toList) .never

/-- What the words behind the name of the program ask for. -/
inductive Asks (environment : Environment) (program : Argument) (words : List Argument) :
    Command → Prop
  | help (asked : "--help".toList ∈ words) : Asks environment program words (.help program)
  | version (unasked : "--help".toList ∉ words) (asked : "--version".toList ∈ words) :
      Asks environment program words .version
  | colors (unasked : "--help".toList ∉ words) (unversioned : "--version".toList ∉ words)
      (asked : AsksColors words) : Asks environment program words .colors
  | connect (unasked : "--help".toList ∉ words) (unversioned : "--version".toList ∉ words)
      (count : Nat) (host port : Argument) (digits : List Char) (escapeByte : UInt8)
      (display : PredictionDisplay) (line : CommandLine words count [host, port])
      (writes : WritesPort port digits)
      (escapes : EscapeSetting (environment "MOSH_ESCAPE_KEY") escapeByte)
      (displays : DisplaySetting (environment "MOSH_PREDICTION_DISPLAY") display) :
      Asks environment program words (.connect {
        endpoint := formatEndpoint host (UInt16.ofNat (numberOf digits))
        verbosity := UInt8.ofNat (min count 3)
        escapeByte
        titleNoPrefix := (environment "MOSH_TITLE_NOPREFIX").isSome
        predictionDisplay := display
        predictionOverwrite := environment "MOSH_PREDICTION_OVERWRITE" = some "yes".toList })

section Settings

theorem port_iff (text : Argument) (port : UInt16) :
    (parsePortNumber text).filter (· ≠ 0) = some port ↔
      ∃ digits, WritesPort text digits ∧ port = UInt16.ofNat (numberOf digits) := by
  have nonzero {digits : List Char} (small : numberOf digits < 2 ^ 16) :
      UInt16.ofNat (numberOf digits) ≠ 0 ↔ 0 < numberOf digits := by
    rw [Ne, ← UInt16.toNat_inj, UInt16.toNat_ofNat_of_lt' small]
    exact Nat.pos_iff_ne_zero.symm
  constructor
  · intro read
    obtain ⟨parsed, positive⟩ := Option.filter_eq_some_iff.mp read
    unfold parsePortNumber at parsed
    dsimp only at parsed
    generalize behind : (if text.head? = some '+' then text.tail else text) = digits at parsed
    split_ifs at parsed with good
    obtain ⟨nonempty, numerals, small⟩ := good
    cases parsed
    refine ⟨digits, ⟨?_, nonempty, List.all_eq_true.mp numerals, ?_, small⟩, rfl⟩
    · split_ifs at behind with plus
      · right
        cases text with
        | nil => cases plus
        | cons first rest =>
            rw [← behind]
            exact congrArg (· :: rest) (Option.some.inj plus)
      · exact Or.inl behind
    · exact (nonzero small).mp (by simpa using positive)
  · rintro ⟨digits, ⟨written, nonempty, numerals, positive, small⟩, same⟩
    have behind : (if text.head? = some '+' then text.tail else text) = digits := by
      rcases written with plain | signed
      · have unsigned : digits.head? ≠ some '+' := by
          intro plus
          exact absurd (numerals _ (List.mem_of_head? plus)) (by decide)
        rw [plain, if_neg unsigned]
      · rw [signed]
        rfl
    have good : digits ≠ [] ∧ digits.all isNumeral = true ∧ numberOf digits < 2 ^ 16 :=
      ⟨nonempty, List.all_eq_true.mpr numerals, small⟩
    unfold parsePortNumber
    dsimp only
    rw [behind, if_pos good, same]
    exact Option.filter_eq_some_iff.mpr ⟨rfl, by simpa using (nonzero small).mpr positive⟩

theorem escape_iff (value : Option Argument) (escapeByte : UInt8) :
    value.elim (.ok Cli.DEFAULT_ESCAPE_BYTE) parseEscapeKey = .ok escapeByte ↔
      EscapeSetting value escapeByte := by
  constructor
  · intro read
    cases value with
    | none =>
        cases read
        exact .unset
    | some value =>
        rw [Option.elim_some] at read
        unfold parseEscapeKey at read
        split at read
        · split_ifs at read with range
          cases read
          exact .key _ range.1 range.2
        · cases read
  · intro setting
    cases setting with
    | unset => rfl
    | key character low high => exact if_pos ⟨low, high⟩

theorem display_iff (value : Option Argument) (display : PredictionDisplay) :
    parsePredictionDisplay value = .ok display ↔ DisplaySetting value display := by
  constructor
  · intro read
    unfold parsePredictionDisplay at read
    cases value with
    | none =>
        cases read
        exact .unset
    | some value =>
        dsimp only [Option.getD_some] at read
        split at read
        · cases read
          exact .adaptive
        · cases read
          exact .always
        · cases read
          exact .never
        · cases read
  · intro setting
    cases setting <;> rfl

end Settings

theorem connect_iff (environment : Environment) (verbosity : UInt8) (host : Argument) (port : UInt16)
    (command : Command) :
    connectCommand environment verbosity host port = .ok command ↔
      ∃ escapeByte display, EscapeSetting (environment "MOSH_ESCAPE_KEY") escapeByte ∧
        DisplaySetting (environment "MOSH_PREDICTION_DISPLAY") display ∧
        command = .connect {
          endpoint := formatEndpoint host port
          verbosity
          escapeByte
          titleNoPrefix := (environment "MOSH_TITLE_NOPREFIX").isSome
          predictionDisplay := display
          predictionOverwrite := environment "MOSH_PREDICTION_OVERWRITE" = some "yes".toList } := by
  have escape := escape_iff (environment "MOSH_ESCAPE_KEY")
  have displays := display_iff (environment "MOSH_PREDICTION_DISPLAY")
  unfold connectCommand
  generalize (environment "MOSH_ESCAPE_KEY").elim (.ok Cli.DEFAULT_ESCAPE_BYTE) parseEscapeKey =
    escapeRead at escape ⊢
  generalize parsePredictionDisplay (environment "MOSH_PREDICTION_DISPLAY") = displayRead at displays ⊢
  constructor
  · intro connected
    cases escapeRead with
    | error error => cases connected
    | ok escapeByte =>
        cases displayRead with
        | error error => cases connected
        | ok display =>
            cases connected
            exact ⟨escapeByte, display, (escape _).mp rfl, (displays _).mp rfl, rfl⟩
  · rintro ⟨escapeByte, display, escapes, shown, same⟩
    rw [(escape _).mpr escapes, (displays _).mpr shown, same]
    rfl

/-- The command line is accepted exactly by its grammar, with the meaning the grammar gives it. -/
theorem command_line_grammar (environment : Environment) (arguments : List Argument)
    (command : Command) :
    parseCommand arguments environment = .ok command ↔
      Asks environment (arguments.headD "ferrumtty".toList) arguments.tail command := by
  unfold parseCommand
  generalize arguments.headD "ferrumtty".toList = program
  generalize arguments.tail = words
  have read := @read_arguments_iff words
  unfold parseWords
  by_cases asked : "--help".toList ∈ words
  · rw [if_pos asked]
    constructor
    · intro same
      cases same
      exact .help asked
    · intro asks
      cases asks with
      | help _ => rfl
      | version unasked _ => exact absurd asked unasked
      | colors unasked _ _ => exact absurd asked unasked
      | connect unasked => exact absurd asked unasked
  rw [if_neg asked]
  by_cases versioned : "--version".toList ∈ words
  · rw [if_pos versioned]
    constructor
    · intro same
      cases same
      exact .version asked versioned
    · intro asks
      cases asks with
      | help asks => exact absurd asks asked
      | version _ _ => rfl
      | colors _ unversioned _ => exact absurd versioned unversioned
      | connect _ unversioned => exact absurd versioned unversioned
  rw [if_neg versioned]
  generalize readArguments 0 [] words = outcome at read ⊢
  constructor
  · intro parsed
    split at parsed
    · cases parsed
    · cases parsed
      exact .colors asked versioned ((read .colors).mp rfl)
    · rename_i verbosity host port
      split at parsed
      · cases parsed
      · rename_i number numbered
        obtain ⟨digits, writes, same⟩ := (port_iff port number).mp numbered
        obtain ⟨escapeByte, display, escapes, displays, connected⟩ :=
          (connect_iff environment verbosity host number command).mp parsed
        obtain ⟨count, positionals, line, verbose, both⟩ := (read _).mp rfl
        rw [connected, verbose, same, Nat.zero_add]
        have named : positionals = [host, port] := both.symm
        exact .connect asked versioned count host port digits escapeByte display (named ▸ line)
          writes escapes displays
    · cases parsed
  · intro asks
    cases asks with
    | help asks => exact absurd asks asked
    | version _ asks => exact absurd asks versioned
    | colors _ _ asks =>
        rw [(read .colors).mpr asks]
    | connect _ _ count host port digits escapeByte display line writes escapes displays =>
        have understood : Understood words 0 [] (.positionals (capped (0 + count)) [host, port]) :=
          ⟨count, [host, port], line, rfl, rfl⟩
        rw [(read _).mpr understood]
        dsimp only
        rw [(port_iff port _).mpr ⟨digits, writes, rfl⟩, Nat.zero_add]
        exact (connect_iff environment _ host _ _).mpr ⟨escapeByte, display, escapes, displays, rfl⟩

/-- Two argument lists that differ at most in the descriptions of the wrapper. -/
inductive SameButDescriptions : List Argument → List Argument → Prop
  | done : SameButDescriptions [] []
  | dashes (behind : List Argument) :
      SameButDescriptions (['-', '-'] :: behind) (['-', '-'] :: behind)
  | missing (more : Nat) : SameButDescriptions [flags more ['#']] [flags more ['#']]
  | word {first second : List Argument} (word : Argument) (single : word ≠ ['-', '-'])
      (closed : ∀ more, word ≠ flags more ['#']) (rest : SameButDescriptions first second) :
      SameButDescriptions (word :: first) (word :: second)
  | attached {first second : List Argument} (more : Nat) (character other : Char)
      (text others : List Char) (rest : SameButDescriptions first second) :
      SameButDescriptions (flags more ('#' :: character :: text) :: first)
        (flags more ('#' :: other :: others) :: second)
  | described {first second : List Argument} (more : Nat) (description other : Argument)
      (plain : description ≠ "--help".toList ∧ description ≠ "--version".toList)
      (otherPlain : other ≠ "--help".toList ∧ other ≠ "--version".toList)
      (rest : SameButDescriptions first second) :
      SameButDescriptions (flags more ['#'] :: description :: first)
        (flags more ['#'] :: other :: second)

section Descriptions

variable {first second : List Argument}

theorem SameButDescriptions.asks_long (same : SameButDescriptions first second) {name : List Char}
    (long : name = "help".toList ∨ name = "version".toList) :
    '-' :: '-' :: name ∈ first ↔ '-' :: '-' :: name ∈ second := by
  induction same with
  | done => exact Iff.rfl
  | dashes behind => exact Iff.rfl
  | missing more => exact Iff.rfl
  | word word _ _ _ induction => rw [List.mem_cons, List.mem_cons, induction]
  | attached more character other text others _ induction =>
      have left : '-' :: '-' :: name ≠ flags more ('#' :: character :: text) :=
        (flags_not_long more (by simp)).symm
      have right : '-' :: '-' :: name ≠ flags more ('#' :: other :: others) :=
        (flags_not_long more (by simp)).symm
      rw [List.mem_cons, List.mem_cons, induction, or_iff_right left, or_iff_right right]
  | described more description other plain otherPlain _ induction =>
      have option : '-' :: '-' :: name ≠ flags more ['#'] :=
        (flags_not_long more (by simp)).symm
      have apart {text : Argument}
          (unlike : text ≠ "--help".toList ∧ text ≠ "--version".toList) :
          '-' :: '-' :: name ≠ text := by
        rcases long with help | version
        · rw [help]
          exact unlike.1.symm
        · rw [version]
          exact unlike.2.symm
      rw [List.mem_cons, List.mem_cons, List.mem_cons, List.mem_cons, induction,
        or_iff_right option, or_iff_right option, or_iff_right (apart plain),
        or_iff_right (apart otherPlain)]

theorem SameButDescriptions.read (same : SameButDescriptions first second) (before : Nat)
    (earlier : List Argument) :
    readArguments (capped before) earlier first = readArguments (capped before) earlier second := by
  induction same generalizing before earlier with
  | done => rfl
  | dashes behind => rfl
  | missing more => rfl
  | word word single closed _ induction =>
      rw [readArguments, readArguments, if_neg single, if_neg single]
      split_ifs with option
      · have flagged := option_flags option
        generalize word.tail = characters at flagged ⊢
        have known := option_cases before characters
        generalize readOption (capped before) characters = ending at known ⊢
        cases known with
        | read more => exact induction _ _
        | description more text =>
            cases text with
            | nil => exact absurd flagged (closed more)
            | cons character text => exact induction _ _
        | colors more text => rfl
        | refused _ => rfl
      · exact induction _ _
  | attached more character other text others _ induction =>
      rw [(Reads.attached more character text (.start _)).loop before earlier,
        (Reads.attached more other others (.start _)).loop before earlier]
      exact induction _ _
  | described more description other _ _ _ induction =>
      rw [(Reads.described more description (.start _)).loop before earlier,
        (Reads.described more other (.start _)).loop before earlier]
      exact induction _ _

/-- The descriptions of the wrapper leave no trace: command lines that differ in nothing else come to
the same command or the same failure, its message included. -/
theorem descriptions_unread (environment : Environment) (program : Argument)
    (first second : List Argument) (same : SameButDescriptions first second) :
    parseCommand (program :: first) environment = parseCommand (program :: second) environment := by
  have helps : "--help".toList ∈ first ↔ "--help".toList ∈ second := same.asks_long (Or.inl rfl)
  have versions : "--version".toList ∈ first ↔ "--version".toList ∈ second :=
    same.asks_long (Or.inr rfl)
  change parseWords program first environment = parseWords program second environment
  unfold parseWords
  have read := same.read 0 []
  change readArguments 0 [] first = readArguments 0 [] second at read
  rw [read]
  simp only [helps, versions]

/-- A description of its own and one in an option, before a port that is refused. -/
theorem wrapped_descriptions_unread :
    parseCommand ["client".toList, "-v#".toList, "ssh host".toList, "-#tmux".toList, "host".toList,
        "0".toList] (fun _ => none) =
      .error (badPort "client".toList "0".toList) ∧
    parseCommand ["client".toList, "-v#".toList, "ssh host".toList, "-#tmux".toList, "host".toList,
        "0".toList] (fun _ => none) =
      parseCommand ["client".toList, "-v#".toList, "mosh".toList, "-#screen".toList, "host".toList,
        "0".toList] (fun _ => none) := by
  refine ⟨by decide, descriptions_unread (fun _ => none) "client".toList _ _ ?_⟩
  apply SameButDescriptions.described 1 "ssh host".toList "mosh".toList (by decide) (by decide)
  apply SameButDescriptions.attached 0 't' 's' "mux".toList "creen".toList
  apply SameButDescriptions.word _ (by decide) (by simp [flags])
  exact .word _ (by decide) (by simp [flags]) .done

end Descriptions

end FerrumTty.Client

import Mathlib.Data.List.TakeWhile
import StorageLayout.CommandLine.Run
import StorageLayout.Proofs.Exchange.Document

/-!
# Arguments that ask for a command

Every command can be asked for with every way of reporting, as long as none of its paths is
empty: values are given behind equals signs and files behind two dashes, so that no text is
taken for an option. No arguments ask for a command with an empty path.
-/

namespace StorageLayout.CommandLine

def optionArgument (option value : String) : String :=
  "--" ++ option ++ "=" ++ value

def optionArguments (option : String) (value : Option String) : List String :=
  (value.map (optionArgument option)).toList

def OutputFormat.name : OutputFormat → String
  | text => "text"
  | json => "json"

/-- What is given in front of the command's name. -/
def Reporting.given (r : Reporting) : Given :=
  { Given.nothing with output := some r.format, quiet := r.quiet, verbosity := r.verbosity }

def Reporting.arguments (r : Reporting) : List String :=
  optionArguments "output" (some r.format.name) ++
    ((if r.quiet then ["--quiet"] else []) ++ List.replicate r.verbosity "-v")

def CommandName.word : CommandName → String
  | layout => "layout"
  | diff => "diff"
  | upgrade => "upgrade"
  | check => "check"

namespace Command

def name : Command → CommandName
  | layout _ _ => .layout
  | diff _ _ _ => .diff
  | upgrade _ _ _ _ => .upgrade
  | check _ => .check

def given : Command → Given
  | layout file contract => { Given.nothing with contract, files := [file] }
  | diff old new contract => { Given.nothing with contract, files := [new, old] }
  | upgrade old new contract config =>
    { Given.nothing with contract, config, files := [new, old] }
  | check file => { Given.nothing with files := [file] }

def arguments (c : Command) : List String :=
  c.name.word :: (optionArguments "contract" c.given.contract ++
    optionArguments "config" c.given.config ++ "--" :: c.given.files.reverse)

theorem makeCommand_given (c : Command) : makeCommand c.name c.given = .ok c := by
  cases c <;> rfl

end Command

section Forms

theorem splitAtEquals_append {cs : List Char} (h : '=' ∉ cs) (vs : List Char) :
    splitAtEquals (cs ++ '=' :: vs) = (String.ofList cs, some (String.ofList vs)) := by
  have hne : ∀ c ∈ cs, decide (c ≠ '=') = true := by
    intro c hc
    simp only [ne_eq, decide_eq_true_eq]
    exact fun heq => h (heq ▸ hc)
  rw [splitAtEquals, List.dropWhile_append_of_pos hne, List.takeWhile_append_of_pos hne]
  simp

/-- Whatever text the value is, it is not taken for an option. -/
theorem Form.of_optionArgument {option : String} (h : '=' ∉ option.toList) (value : String) :
    Form.of (optionArgument option value) = .long option (some value) := by
  have hlist : (optionArgument option value).toList =
      '-' :: '-' :: (option.toList ++ '=' :: value.toList) := by
    simp [optionArgument]
  have hsplit := splitAtEquals_append h value.toList
  rw [String.ofList_toList, String.ofList_toList] at hsplit
  cases hcs : option.toList ++ '=' :: value.toList with
  | nil => simp at hcs
  | cons c cs =>
    rw [hcs] at hlist hsplit
    simp [Form.of, hlist, hsplit]

theorem Form.of_quiet : Form.of "--quiet" = .long "quiet" none := by
  simp [Form.of, splitAtEquals]

theorem Form.of_verbose : Form.of "-v" = .short ['v'] := by
  simp [Form.of]

theorem Form.of_dashes : Form.of "--" = .endOfOptions := by
  simp [Form.of]

theorem Form.of_word (name : CommandName) : Form.of name.word = .plain := by
  cases name <;> decide

theorem CommandName.ofString?_word (name : CommandName) : ofString? name.word = some name := by
  cases name <;> rfl

end Forms

section Steps

variable {command : Option CommandName} {g : Given} {arg option value : String}
  {rest : List String}

theorem readSide_value (h : Form.of arg = .long option (some value))
    (htakes : CommandName.takesValue command option = true) :
    readSide command g (arg :: rest) =
      g.setValue option value >>= fun g => readSide command g rest := by
  rw [readSide.eq_def]
  simp only [h, htakes, if_true]

theorem readSide_switch (h : Form.of arg = .long option none)
    (htakes : CommandName.takesValue command option = false)
    (hstop : stopAtLong? command option = none) :
    readSide command g (arg :: rest) =
      g.setSwitch option >>= fun g => readSide command g rest := by
  rw [readSide.eq_def]
  simp only [h, htakes, hstop, Bool.false_eq_true, if_false]

theorem readSide_verbose : readSide command g ("-v" :: rest) =
    readSide command { g with verbosity := g.verbosity + 1 } rest := by
  rw [readSide.eq_def]
  simp only [Form.of_verbose, readLetters, if_true]
  rfl

theorem readSide_dashes : readSide command g ("--" :: rest) = readPlain command g rest := by
  rw [readSide.eq_def]
  simp only [Form.of_dashes]

theorem readSide_word (name : CommandName) :
    readSide none g (name.word :: rest) = .ok (.command g name rest) := by
  rw [readSide.eq_def]
  simp only [Form.of_word, CommandName.ofString?_word]

theorem readSide_replicate_verbose (n : Nat) :
    readSide command g (List.replicate n "-v" ++ rest) =
      readSide command { g with verbosity := g.verbosity + n } rest := by
  induction n generalizing g with
  | zero => rfl
  | succ n ih =>
    rw [List.replicate_succ, List.cons_append, readSide_verbose, ih]
    simp only [Nat.add_right_comm, Nat.add_assoc]

end Steps

theorem setValue_output (g : Given) (format : OutputFormat) (h : g.output = none) :
    g.setValue "output" format.name = .ok { g with output := some format } := by
  cases format <;> simp [Given.setValue, OutputFormat.name, h]

theorem setValue_contract (g : Given) (value : String) (h : g.contract = none) :
    g.setValue "contract" value = .ok { g with contract := some value } := by
  simp [Given.setValue, h]

theorem setValue_config (g : Given) (value : String) (h : g.config = none) (hne : value ≠ "") :
    g.setValue "config" value = .ok { g with config := some value } := by
  simp [Given.setValue, h, hne]

theorem readSide_optionArguments {command : Option CommandName} {g : Given} {option : String}
    {value : Option String} {rest : List String} (g' : Given) (h : '=' ∉ option.toList)
    (hnone : value = none → g' = g)
    (hsome : ∀ v ∈ value, CommandName.takesValue command option = true ∧
      g.setValue option v = .ok g') :
    readSide command g (optionArguments option value ++ rest) = readSide command g' rest := by
  cases value with
  | none =>
    rw [hnone rfl]
    rfl
  | some v =>
    obtain ⟨htakes, hset⟩ := hsome v rfl
    change readSide command g (optionArgument option v :: rest) = _
    rw [readSide_value (Form.of_optionArgument h v) htakes, hset]
    rfl

theorem readSide_quiet {g : Given} {rest : List String} (quiet : Bool) (h : g.quiet = false) :
    readSide none g ((if quiet then ["--quiet"] else []) ++ rest) =
      readSide none { g with quiet } rest := by
  cases quiet with
  | false =>
    have hg : { g with quiet := false } = g := by rw [← h]
    rw [hg]
    rfl
  | true =>
    simp only [if_true, List.cons_append, List.nil_append]
    rw [readSide_switch Form.of_quiet rfl rfl]
    simp [Given.setSwitch, h, bind, Except.bind]

theorem readSide_reporting (r : Reporting) (name : CommandName) (rest : List String) :
    readSide none .nothing (r.arguments ++ name.word :: rest) =
      .ok (.command r.given name rest) := by
  rw [Reporting.arguments, List.append_assoc, List.append_assoc,
    readSide_optionArguments { Given.nothing with output := some r.format } (by decide) (by simp)
      fun v hv => ⟨rfl, ?_⟩,
    readSide_quiet _ rfl, readSide_replicate_verbose, readSide_word]
  · simp [Reporting.given, Given.nothing]
  · cases hv
    exact setValue_output _ _ rfl

theorem readPlain_files {name : CommandName} {g : Given} {files : List String}
    (hcount : files.length + g.files.length ≤ name.fileCount) (hfiles : ∀ f ∈ files, f ≠ "") :
    readPlain (some name) g files = .ok (.done { g with files := files.reverse ++ g.files }) := by
  induction files generalizing g with
  | nil => rfl
  | cons f fs ih =>
    rw [List.length_cons] at hcount
    have hadd : g.addFile name f = .ok { g with files := f :: g.files } := by
      rw [Given.addFile, if_neg (by omega), if_neg (hfiles f List.mem_cons_self)]
    rw [readPlain, hadd]
    change readPlain (some name) _ fs = _
    rw [ih (by simp only [List.length_cons]; omega)
      fun x hx => hfiles x (List.mem_cons_of_mem _ hx)]
    simp

variable {c : Command}

theorem readSide_given (h : ∀ path ∈ c.paths, path ≠ "") :
    readSide (some c.name) .nothing (optionArguments "contract" c.given.contract ++
      optionArguments "config" c.given.config ++ "--" :: c.given.files.reverse) =
      .ok (.done c.given) := by
  have hcontract : ∀ v ∈ c.given.contract,
      CommandName.takesValue (some c.name) "contract" = true := by
    cases c <;> simp [Command.given, Given.nothing, Command.name, CommandName.takesValue]
  have hconfig : ∀ v ∈ c.given.config,
      CommandName.takesValue (some c.name) "config" = true ∧ v ≠ "" := by
    intro v hv
    cases c <;>
      simp_all [Command.given, Given.nothing, Command.name, CommandName.takesValue, Command.paths]
  have hfiles : ∀ f ∈ c.given.files.reverse, f ≠ "" := by
    cases c <;> simp_all [Command.given, Command.paths]
  have hcount : c.given.files.reverse.length + 0 ≤ c.name.fileCount := by
    cases c <;> exact Nat.le_refl _
  rw [List.append_assoc,
    readSide_optionArguments { Given.nothing with contract := c.given.contract } (by decide)
      (fun h => by rw [h]; rfl) fun v hv => ⟨hcontract v hv, ?_⟩,
    readSide_optionArguments { Given.nothing with
      contract := c.given.contract, config := c.given.config } (by decide)
      (fun h => by rw [h]; rfl) fun v hv => ⟨(hconfig v hv).1, ?_⟩,
    readSide_dashes, readPlain_files hcount hfiles]
  · cases c <;> rfl
  · rw [setValue_config _ v rfl (hconfig v hv).2, hv]
  · rw [setValue_contract _ v rfl, hv]

/-- The arguments ask for what they were written for. -/
theorem parseArguments_arguments (r : Reporting) (h : ∀ path ∈ c.paths, path ≠ "") :
    parseArguments (r.arguments ++ c.arguments) = .ok (.run r c) := by
  have hcombine : combine r.given c.given = r := by
    cases c <;> simp [combine, Reporting.given, Command.given, Given.nothing]
  rw [parseArguments, Command.arguments, readSide_reporting]
  simp only [bind, Except.bind, readSide_given h, c.makeCommand_given, hcombine]
  rfl

/-- No path that was given is empty. -/
def Given.HasPaths (g : Given) : Prop :=
  (∀ file ∈ g.files, file ≠ "") ∧ ∀ path ∈ g.config, path ≠ ""

section Paths

variable {g g' : Given}

theorem Given.HasPaths.setValue {option value : String} (hg : g.HasPaths)
    (h : g.setValue option value = .ok g') : g'.HasPaths := by
  unfold Given.setValue at h
  split at h
  · split_ifs at h
    split at h <;> cases h <;> exact hg
  · split_ifs at h
    cases h
    exact hg
  · split_ifs at h with _ hne
    cases h
    exact ⟨hg.1, by simpa using hne⟩
  · cases h

theorem Given.HasPaths.setSwitch {option : String} (hg : g.HasPaths)
    (h : g.setSwitch option = .ok g') : g'.HasPaths := by
  unfold Given.setSwitch at h
  split at h
  · split_ifs at h
    cases h
    exact hg
  · cases h
    exact hg
  · cases h

theorem Given.HasPaths.addFile {name : CommandName} {file : String} (hg : g.HasPaths)
    (h : g.addFile name file = .ok g') : g'.HasPaths := by
  unfold Given.addFile at h
  split_ifs at h with _ hne
  cases h
  exact ⟨List.forall_mem_cons.mpr ⟨hne, hg.1⟩, hg.2⟩

theorem Given.HasPaths.readLetters (hg : g.HasPaths) (command : Option CommandName)
    (letters : List Char) : (∀ g', readLetters command g letters = .ok (.inl g') → g'.HasPaths) ∧
      ∀ g', readLetters command g letters ≠ .ok (.inr (.done g')) := by
  induction letters generalizing g with
  | nil => simp_all [CommandLine.readLetters]
  | cons c cs ih =>
    rw [CommandLine.readLetters]
    split_ifs
    · exact ih hg
    · simp only [stopAtLetter?]
      split_ifs <;> simp

theorem Given.HasPaths.readPlain {command : Option CommandName} {args : List String}
    (hg : g.HasPaths) (h : readPlain command g args = .ok (.done g')) : g'.HasPaths := by
  induction args generalizing g with
  | nil =>
    cases h
    exact hg
  | cons arg rest ih =>
    cases command with
    | none => cases h
    | some name =>
      obtain ⟨g₁, hadd, hrest⟩ := except_bind_eq_ok_iff.mp h
      exact ih (hg.addFile hadd) hrest

theorem stopAtLong?_ne_done {command : Option CommandName} {option : String} :
    stopAtLong? command option ≠ some (.done g) := by
  unfold stopAtLong?
  split_ifs <;> simp

theorem Given.HasPaths.readSide {name : CommandName} {args : List String} (hg : g.HasPaths)
    (h : readSide (some name) g args = .ok (.done g')) : g'.HasPaths := by
  fun_induction CommandLine.readSide (some name) g args with
  | case1 =>
    cases h
    exact hg
  | case2 => exact hg.readPlain h
  | case3 g arg rest letters hform ih =>
    obtain ⟨r, hr, h⟩ := except_bind_eq_ok_iff.mp h
    obtain ⟨hgiven, hstop⟩ := hg.readLetters (some name) letters
    cases r with
    | inl g₁ => exact ih g₁ (hgiven g₁ hr) h
    | inr stop =>
      cases h
      exact absurd hr (hstop g')
  | case4 g arg option htakes value rest hform ih =>
    obtain ⟨g₁, hset, h⟩ := except_bind_eq_ok_iff.mp h
    exact ih g₁ (hg.setValue hset) h
  | case6 g arg option htakes value rest hvalue hform ih =>
    obtain ⟨g₁, hset, h⟩ := except_bind_eq_ok_iff.mp h
    exact ih g₁ (hg.setValue hset) h
  | case9 g arg rest option htakes stop hstop hform =>
    cases h
    exact absurd hstop stopAtLong?_ne_done
  | case10 g arg rest option htakes hstop hform ih =>
    obtain ⟨g₁, hset, h⟩ := except_bind_eq_ok_iff.mp h
    exact ih g₁ (hg.setSwitch hset) h
  | case11 g arg rest hform name' hname ih =>
    obtain ⟨g₁, hadd, h⟩ := except_bind_eq_ok_iff.mp h
    cases hname
    exact ih g₁ (hg.addFile hadd) h
  | case5 | case7 | case8 | case12 | case13 | case14 => simp_all

theorem paths_ne_empty_of_makeCommand {name : CommandName} {c : Command} (hg : g.HasPaths)
    (h : makeCommand name g = .ok c) : ∀ path ∈ c.paths, path ≠ "" := by
  obtain ⟨hfiles, hconfig⟩ := hg
  unfold makeCommand at h
  split at h
  case h_5 => cases h
  all_goals
    cases h
    simp_all [Command.paths, List.reverse_eq_cons_iff, or_imp]

theorem paths_ne_empty_of_parseArguments {args : List String} {r : Reporting} {c : Command}
    (h : parseArguments args = .ok (.run r c)) : ∀ path ∈ c.paths, path ≠ "" := by
  obtain ⟨stop, -, h⟩ := except_bind_eq_ok_iff.mp h
  cases stop with
  | command before name rest =>
    obtain ⟨stop, hstop, h⟩ := except_bind_eq_ok_iff.mp h
    cases stop with
    | done behind =>
      obtain ⟨c', hc', h⟩ := except_bind_eq_ok_iff.mp h
      cases h
      have hnothing : Given.nothing.HasPaths := by simp [Given.HasPaths, Given.nothing]
      exact paths_ne_empty_of_makeCommand (hnothing.readSide hstop) hc'
    | command | showVersion | showHelp => cases h
  | done | showVersion | showHelp => cases h

end Paths

/-- A command can be asked for, whichever way it is to be reported, exactly if none of its paths
is empty. -/
theorem exists_parseArguments_eq_iff {r : Reporting} {c : Command} :
    (∃ args, parseArguments args = .ok (.run r c)) ↔ ∀ path ∈ c.paths, path ≠ "" :=
  ⟨fun ⟨_, h⟩ => paths_ne_empty_of_parseArguments h,
    fun h => ⟨_, parseArguments_arguments r h⟩⟩

end StorageLayout.CommandLine

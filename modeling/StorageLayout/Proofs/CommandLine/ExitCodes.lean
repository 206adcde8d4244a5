import StorageLayout.Proofs.CommandLine.Spelling
import StorageLayout.Proofs.Upgrade.Tally

/-!
# Exit codes

The report of a command decides the exit code, and neither the format nor the amount of what is
written has a say in it. An upgrade that can be deployed is safe in the comparison of the same
two layouts, so whoever lets only those upgrades pass never lets through what the comparison
stops, whatever the policy.
-/

namespace StorageLayout

theorem Upgrade.comparison_safe_of_isDeployable {u : Upgrade} (h : u.isDeployable = true) :
    u.comparison.safe = true := by
  obtain ⟨hcollisions, hmoved, -⟩ := u.isDeployable_iff.mp h
  exact Comparison.safe_iff.mpr ⟨hmoved, hcollisions⟩

namespace CommandLine

theorem readText_eq_ok_iff {files : Files} {path text : String} :
    readText files path = .ok text ↔ files path = .ok text.toByteArray := by
  unfold readText
  cases files path with
  | error failure => simp
  | ok bytes =>
    by_cases h : bytes.IsValidUTF8
    · simp [String.fromUTF8?, h, ← String.toByteArray_inj, String.fromUTF8]
    · have hne : bytes ≠ text.toByteArray := fun heq => h (heq ▸ text.isValidUTF8)
      simp [String.fromUTF8?, h, hne]

section

variable {files : Files} {args : List String} {r : Reporting} {c : Command}
  {old new : String} {contract config : Option String} {result : Report}

theorem exitCode_eq_zero_iff {result : Except CommandError Report} :
    exitCode result = 0 ↔ ∃ report, result = .ok report ∧ report.passes = true := by
  cases result with
  | error e => simp [exitCode]
  | ok report => by_cases h : report.passes <;> simp [exitCode, h]

theorem code_run (h : parseArguments args = .ok (.run r c)) :
    (run files args).code = exitCode (report files c) := by
  rw [run, h]
  exact code_conclude r _

theorem report_diff_eq_ok_iff : report files (.diff old new contract) = .ok result ↔
    ∃ a b, readContract files old contract = .ok a ∧ readContract files new contract = .ok b ∧
      result = .comparison (a.compare b) := by
  simp only [report, except_bind_eq_ok_iff]
  constructor
  · intro ⟨a, ha, b, hb, h⟩
    cases h
    exact ⟨a, b, ha, hb, rfl⟩
  · intro ⟨a, b, ha, hb, h⟩
    exact ⟨a, ha, b, hb, congrArg Except.ok h.symm⟩

theorem report_upgrade_eq_ok_iff :
    report files (.upgrade old new contract config) = .ok result ↔
      ∃ policy a b, readPolicy files config = .ok policy ∧
        readContract files old contract = .ok a ∧ readContract files new contract = .ok b ∧
        result = .upgrade ⟨a, b, policy⟩ := by
  simp only [report, except_bind_eq_ok_iff]
  constructor
  · intro ⟨policy, hpolicy, a, ha, b, hb, h⟩
    cases h
    exact ⟨policy, a, b, hpolicy, ha, hb, rfl⟩
  · intro ⟨policy, a, b, hpolicy, ha, hb, h⟩
    exact ⟨policy, hpolicy, a, ha, b, hb, congrArg Except.ok h.symm⟩

/-- What the upgrade reads besides the policy is what the comparison reads. -/
theorem exitCode_diff_of_upgrade
    (h : exitCode (report files (.upgrade old new contract config)) = 0) :
    exitCode (report files (.diff old new contract)) = 0 := by
  obtain ⟨result, hresult, hpasses⟩ := exitCode_eq_zero_iff.mp h
  obtain ⟨policy, a, b, -, ha, hb, rfl⟩ := report_upgrade_eq_ok_iff.mp hresult
  have hsafe : (a.compare b).safe = true := Upgrade.comparison_safe_of_isDeployable hpasses
  exact exitCode_eq_zero_iff.mpr ⟨_, report_diff_eq_ok_iff.mpr ⟨a, b, ha, hb, rfl⟩, hsafe⟩

end

/-- If arguments ask for an upgrade and the run ends with code 0, so does every run that compares
the same files, whatever the policy was and however either run reports; and all runs of one
command end with the same code, however they report. Nothing keeps a command that arguments ask
for, or the comparison of an upgrade's files, from being asked for with any way of reporting. -/
theorem exit_codes_independent (files : Files) :
    (∀ args r old new contract config,
      parseArguments args = .ok (.run r (.upgrade old new contract config)) →
        (∀ r', ∃ args', parseArguments args' = .ok (.run r' (.diff old new contract))) ∧
        ∀ args' r', parseArguments args' = .ok (.run r' (.diff old new contract)) →
          (run files args).code = 0 → (run files args').code = 0) ∧
      ∀ args r c, parseArguments args = .ok (.run r c) →
        (∀ r', ∃ args', parseArguments args' = .ok (.run r' c)) ∧
        ∀ args' r', parseArguments args' = .ok (.run r' c) →
          (run files args').code = (run files args).code := by
  refine ⟨fun args r old new contract config h => ⟨fun r' => ?_, fun args' r' h' hcode => ?_⟩,
    fun args r c h => ⟨fun r' => ?_, fun args' r' h' => ?_⟩⟩
  · have hpaths := paths_ne_empty_of_parseArguments h
    refine exists_parseArguments_eq_iff.mpr fun path hpath => hpaths path ?_
    exact List.mem_append_right _ hpath
  · rw [code_run h] at hcode
    rw [code_run h']
    exact exitCode_diff_of_upgrade hcode
  · exact exists_parseArguments_eq_iff.mpr (paths_ne_empty_of_parseArguments h)
  · rw [code_run h, code_run h']

/-- A variable is appended. Runs of the upgrade that report in two ways, and of the comparison in
a third one, all end with code 0. -/
theorem exit_codes_independent_appended :
    let a := "\x7b\"name\":\"V\",\"variables\":[\x7b\"name\":\"a\",\"typeName\":\"bool\"\x7d]\x7d"
    let b := "\x7b\"name\":\"V\",\"variables\":[\x7b\"name\":\"a\",\"typeName\":\"bool\"\x7d," ++
      "\x7b\"name\":\"b\",\"typeName\":\"bool\"\x7d]\x7d"
    let lenient := "[scoring]\ncritical_penalty = 5\n"
    let files : Files := fun path =>
      if path = "a.json" then .ok a.toByteArray
      else if path = "b.json" then .ok b.toByteArray
      else if path = "lenient.toml" then .ok lenient.toByteArray
      else .error .notFound
    let upgrade : Command := .upgrade "a.json" "b.json" none (some "lenient.toml")
    let diff : Command := .diff "a.json" "b.json" none
    let args := ["--output=json", "upgrade", "--config=lenient.toml", "--", "a.json", "b.json"]
    let quietArgs := ["--output=text", "--quiet", "-v", "upgrade", "--config=lenient.toml", "--",
      "a.json", "b.json"]
    let diffArgs := ["--output=text", "-v", "-v", "diff", "--", "a.json", "b.json"]
    parseArguments args = .ok (.run ⟨.json, false, 0⟩ upgrade) ∧
      parseArguments quietArgs = .ok (.run ⟨.text, true, 1⟩ upgrade) ∧
      parseArguments diffArgs = .ok (.run ⟨.text, false, 2⟩ diff) ∧
      (run files args).code = 0 ∧ (run files quietArgs).code = 0 ∧
      (run files diffArgs).code = 0 := by
  intro a b lenient files upgrade diff args quietArgs diffArgs
  have hpaths : ∀ path ∈ upgrade.paths, path ≠ "" := by decide
  have hargs : parseArguments args = .ok (.run ⟨.json, false, 0⟩ upgrade) := by
    rw [← parseArguments_arguments ⟨.json, false, 0⟩ hpaths]
    exact congrArg parseArguments (by decide +kernel)
  have hquiet : parseArguments quietArgs = .ok (.run ⟨.text, true, 1⟩ upgrade) := by
    rw [← parseArguments_arguments ⟨.text, true, 1⟩ hpaths]
    exact congrArg parseArguments (by decide +kernel)
  have hdiff : parseArguments diffArgs = .ok (.run ⟨.text, false, 2⟩ diff) := by
    rw [← parseArguments_arguments ⟨.text, false, 2⟩ (c := diff) (by decide)]
    exact congrArg parseArguments (by decide +kernel)
  have hcode : (run files args).code = 0 := by
    have ha : readText files "a.json" = .ok a := readText_eq_ok_iff.mpr rfl
    have hb : readText files "b.json" = .ok b := readText_eq_ok_iff.mpr rfl
    have hpolicy : readText files "lenient.toml" = .ok lenient := readText_eq_ok_iff.mpr rfl
    rw [code_run hargs]
    simp only [upgrade, report, readPolicy, readContract, readJson, ha, hb, hpolicy]
    decide +kernel
  obtain ⟨hgate, hsame⟩ := exit_codes_independent files
  refine ⟨hargs, hquiet, hdiff, hcode, ?_, ?_⟩
  · exact ((hsame _ _ _ hargs).2 _ _ hquiet).trans hcode
  · exact (hgate _ _ _ _ _ _ hargs).2 _ _ hdiff hcode

end CommandLine

end StorageLayout

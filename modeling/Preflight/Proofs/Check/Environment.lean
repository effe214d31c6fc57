import Preflight.Proofs.Check.Independence
import Preflight.Proofs.Check.Passing
import Preflight.Proofs.Disk.Visible
import Preflight.Proofs.Disk.Walk
import Preflight.Proofs.Env.Table
import Preflight.Proofs.Text.Case

/-!
# What the environment check reports

The two environment files are told by their tables (`tableAt`), which are empty where there is no
file. What the check reports of them is said here of the tables alone (`Reports`): whether it passes,
which keys are missing, what is found about the secret of each key, and which keys are unused.

A key is looked at in two ways, by a pattern in any case and by its upper case. For ASCII keys both
ask for the same (`secretFinding?_iff`), so that each key has one finding at most.

The law (`environment_reports`): unless a path to one of the files is too long, which stops the
check, it reports so.
-/

set_option autoImplicit false

namespace Preflight.Check.Environment

open Text (IsAscii capitals)

/-! ## Keys -/

/-- The key holds the word, in any case of its letters. -/
def Holds (word key : String) : Prop := word.toList <:+: capitals key.toList

/-- The words that name a secret. -/
def secretWords : List String := ["SECRET", "KEY", "PASSWORD", "TOKEN"]

/-- The key names a secret. -/
def NamesSecret (key : String) : Prop := ∃ word ∈ secretWords, Holds word key

/-- The issue that a key has no value. -/
def emptyIssue (key : String) : Finding := .issue .emptySecret { subject := some key }

/-- The issue that the secret of a key is weak. -/
def weakIssue (key : String) : Finding := .issue .weakSecret { subject := some key }

/-- The warning that the password of a key is short. -/
def shortWarning (key : String) : Finding := .warning .shortSecret { subject := some key }

variable {key value : String}

/-- One of some words of capitals occurs in an ASCII key that holds one of them. -/
theorem occursIn_anyWord_iff_holds (words : List String)
    (hwords : ∀ word ∈ words, word.toList.all Char.isUpper = true)
    (hkey : IsAscii key.toList) :
    (Pattern.anyWord words).occursIn key.toList = true ↔ ∃ word ∈ words, Holds word key := by
  rw [Pattern.occursIn_anyWord_iff]
  exact exists_congr fun word => and_congr_right fun hword =>
    Pattern.mentions_iff_of_ascii (hwords word hword) hkey

theorem occursIn_secretKey_iff (hkey : IsAscii key.toList) :
    secretKey.occursIn key.toList = true ↔ NamesSecret key :=
  occursIn_anyWord_iff_holds secretWords (by decide) hkey

theorem occursIn_passwordKey_iff (hkey : IsAscii key.toList) :
    passwordKey.occursIn key.toList = true ↔ Holds "PASSWORD" key ∨ Holds "KEY" key := by
  rw [passwordKey, occursIn_anyWord_iff_holds _ (by decide) hkey]
  simp

/-- What holds one of the words names a secret. -/
theorem namesSecret_of_holds {word : String} (hword : word ∈ secretWords) (h : Holds word key) :
    NamesSecret key :=
  ⟨word, hword, h⟩

/-- A value is weak if it is short and its key is called a secret. -/
theorem weakRule_iff (hkey : IsAscii key.toList) :
    (value.length < minSecretLength && Text.mentions "SECRET" (Text.upper key)) = true ↔
      value.length < 32 ∧ Holds "SECRET" key := by
  rw [Bool.and_eq_true, decide_eq_true_eq, Text.mentions_upper_iff hkey]
  rfl

/-- A value is short if it has less than sixteen characters and its key is a password or a key. -/
theorem shortRule_iff (hkey : IsAscii key.toList) :
    (value.length < minKeyLength && passwordKey.occursIn key.toList) = true ↔
      value.length ≤ 15 ∧ (Holds "PASSWORD" key ∨ Holds "KEY" key) := by
  rw [Bool.and_eq_true, decide_eq_true_eq, occursIn_passwordKey_iff hkey, minKeyLength,
    Nat.lt_succ_iff]

/-- **What is found about the secret of a key**: nothing, or one finding, by the first rule that
applies. -/
theorem secretFinding?_iff (hkey : IsAscii key.toList) {finding : Finding} :
    secretFinding? key value = some finding ↔
      (finding = emptyIssue key ∧ NamesSecret key ∧ value = "") ∨
      (finding = weakIssue key ∧ Holds "SECRET" key ∧ value ≠ "" ∧ value.length < 32) ∨
      finding = shortWarning key ∧ 1 ≤ value.length ∧ value.length ≤ 15 ∧
        (Holds "PASSWORD" key ∨ Holds "KEY" key) ∧ ¬ Holds "SECRET" key := by
  have hsecret : Holds "SECRET" key → NamesSecret key := namesSecret_of_holds (by decide)
  have hpassword : Holds "PASSWORD" key ∨ Holds "KEY" key → NamesSecret key := fun h =>
    h.elim (namesSecret_of_holds (by decide)) (namesSecret_of_holds (by decide))
  have hnames : (!secretKey.occursIn key.toList) = true ↔ ¬ NamesSecret key := by
    rw [Bool.not_eq_true', ← Bool.not_eq_true, occursIn_secretKey_iff hkey]
  have hempty : value.isEmpty = true ↔ value = "" := String.isEmpty_iff
  unfold secretFinding?
  split
  · rename_i hnone
    have hnone := hnames.mp hnone
    simp [hnone, mt hsecret hnone, mt hpassword hnone]
  · rename_i hsome
    have hsome : NamesSecret key := Classical.not_not.mp (mt hnames.mpr hsome)
    split
    · rename_i hvalue
      simp [hempty.mp hvalue, hsome, emptyIssue, eq_comm]
    · rename_i hvalue
      have hvalue : value ≠ "" := mt hempty.mpr hvalue
      have hpositive : 1 ≤ value.length :=
        Nat.one_le_iff_ne_zero.mpr (mt String.length_eq_zero_iff.mp hvalue)
      split
      · rename_i hrule
        obtain ⟨hlength, hholds⟩ := (weakRule_iff hkey).mp hrule
        simp [hvalue, hholds, hlength, weakIssue, eq_comm]
      · rename_i hstrong
        have hstrong := mt (weakRule_iff hkey).mpr hstrong
        split
        · rename_i hrule
          obtain ⟨hlength, hholds⟩ := (shortRule_iff hkey).mp hrule
          have hno : ¬ Holds "SECRET" key := fun h => hstrong ⟨by omega, h⟩
          simp [hvalue, hpositive, hholds, hno, hlength, shortWarning, eq_comm]
        · rename_i hlong
          have hlong := mt (shortRule_iff hkey).mpr hlong
          simp only [reduceCtorEq, hvalue, and_false, false_or, false_iff, not_or]
          exact ⟨fun ⟨_, hholds, _, hlength⟩ => hstrong ⟨hlength, hholds⟩,
            fun ⟨_, _, hlength, hholds, _⟩ => hlong ⟨hlength, hholds⟩⟩

/-! ## Findings about secrets -/

/-- The kinds of what is found about a secret. -/
def secretKinds : List Kind := [.emptySecret, .weakSecret, .shortSecret]

/-- What may be found about the secret of a key. -/
def findingsAbout (key : String) : List Finding := [emptyIssue key, weakIssue key, shortWarning key]

/-- It is of one of the kinds, and tells the key. -/
theorem of_mem_findingsAbout {finding : Finding} (h : finding ∈ findingsAbout key) :
    finding.kind ∈ secretKinds ∧ finding.payload.subject = some key := by
  simp only [findingsAbout, List.mem_cons, List.not_mem_nil, or_false] at h
  obtain rfl | rfl | rfl := h
  all_goals exact ⟨by simp [emptyIssue, weakIssue, shortWarning, Finding.issue, Finding.warning,
    secretKinds], rfl⟩

/-- What is found about the secret of a key is one of these. -/
theorem mem_findingsAbout {finding : Finding} (h : secretFinding? key value = some finding) :
    finding ∈ findingsAbout key := by
  unfold secretFinding? at h
  split at h
  · cases h
  · split at h
    · cases h
      simp [findingsAbout, emptyIssue]
    · split at h
      · cases h
        simp [findingsAbout, weakIssue]
      · split at h
        · cases h
          simp [findingsAbout, shortWarning]
        · cases h

/-- What is found about the secrets of a table. -/
def secretFindings (values : Env.Table) : List Finding :=
  values.filterMap fun (key, value) => secretFinding? key value

variable {values : Env.Table}

/-- It is about a key of the table. -/
theorem exists_key_of_secret {finding : Finding} (h : finding ∈ secretFindings values) :
    ∃ key ∈ values.keys, finding ∈ findingsAbout key := by
  obtain ⟨⟨key, value⟩, hentry, hfinding⟩ := List.mem_filterMap.mp h
  exact ⟨key, List.mem_map_of_mem hentry, mem_findingsAbout hfinding⟩

/-- In a table with each key once, what is found about the secret of a key is found about its
value. -/
theorem filter_secretFindings (hnodup : values.keys.Nodup) (hentry : (key, value) ∈ values) :
    (secretFindings values).filter (findingsAbout key).contains =
      (secretFinding? key value).toList := by
  obtain ⟨before, after, rfl⟩ := List.append_of_mem hentry
  have hkeys : Env.Table.keys (before ++ (key, value) :: after) =
      before.map (·.1) ++ key :: after.map (·.1) := by
    rw [Env.Table.keys, List.map_append, List.map_cons]
  rw [hkeys] at hnodup
  obtain ⟨-, hback, hapart⟩ := List.nodup_append.mp hnodup
  -- what is found about another key is not about this one
  have hother : ∀ entries : Env.Table, key ∉ entries.map (·.1) →
      (secretFindings entries).filter (findingsAbout key).contains = [] := by
    intro entries hkey
    refine List.filter_eq_nil_iff.mpr fun finding hfinding habout => hkey ?_
    obtain ⟨other, hother, hmem⟩ := exists_key_of_secret hfinding
    have hsame := (of_mem_findingsAbout hmem).2.symm.trans
      (of_mem_findingsAbout (List.contains_iff_mem.mp habout)).2
    rwa [← Option.some.inj hsame]
  have hbefore := hother before fun h => hapart key h key List.mem_cons_self rfl
  have hafter := hother after (List.nodup_cons.mp hback).1
  rw [secretFindings] at hbefore hafter ⊢
  rw [List.filterMap_append, List.filterMap_cons, List.filter_append, hbefore, List.nil_append]
  cases hfound : secretFinding? key value with
  | none =>
    simp only [hfound]
    exact hafter
  | some finding =>
    have habout : (findingsAbout key).contains finding = true :=
      List.contains_iff_mem.mpr (mem_findingsAbout hfound)
    simp only [hfound, Option.toList_some]
    rw [List.filter_cons_of_pos habout, hafter]

/-- The secrets of a table hold if none is empty and none that is called so is short. -/
theorem secretsHold_iff (hascii : ∀ key ∈ values.keys, IsAscii key.toList) :
    SecretsHold values ↔
      (∀ entry ∈ values, NamesSecret entry.1 → entry.2 ≠ "") ∧
        ∀ entry ∈ values, Holds "SECRET" entry.1 → 32 ≤ entry.2.length := by
  have hkey : ∀ entry ∈ values, IsAscii entry.1.toList := fun entry hentry =>
    hascii entry.1 (List.mem_map_of_mem hentry)
  constructor
  · intro hhold
    have hvalue : ∀ entry ∈ values, NamesSecret entry.1 → entry.2 ≠ "" := by
      intro entry hentry hnames hempty
      exact hhold entry hentry _
        ((secretFinding?_iff (hkey entry hentry)).mpr (.inl ⟨rfl, hnames, hempty⟩)) rfl
    refine ⟨hvalue, fun entry hentry hholds => Nat.not_lt.mp fun hlength => ?_⟩
    have hsome := hvalue entry hentry (namesSecret_of_holds (by decide) hholds)
    exact hhold entry hentry _ ((secretFinding?_iff (hkey entry hentry)).mpr
      (.inr (.inl ⟨rfl, hholds, hsome, hlength⟩))) rfl
  · rintro ⟨hvalue, hlong⟩ entry hentry finding hfinding
    rcases (secretFinding?_iff (hkey entry hentry)).mp hfinding with
      ⟨-, hnames, hempty⟩ | ⟨-, hholds, -, hlength⟩ | ⟨rfl, -⟩
    · exact absurd hempty (hvalue entry hentry hnames)
    · exact absurd hlength (Nat.not_lt.mpr (hlong entry hentry hholds))
    · simp [shortWarning, Finding.warning]

/-! ## Kinds of findings -/

/-- The findings are of the kinds. -/
def AreOf (kinds : List Kind) (found : List Finding) : Prop := ∀ f ∈ found, f.kind ∈ kinds

namespace AreOf

variable {kinds more : List Kind} {kind : Kind} {found others : List Finding}

theorem nil : AreOf kinds [] := List.forall_mem_nil _

/-- One finding is of its kind. -/
theorem single (finding : Finding) : AreOf [finding.kind] [finding] :=
  List.forall_mem_singleton.mpr (List.mem_singleton_self _)

theorem ite {c : Prop} [Decidable c] (h : AreOf kinds found) (h' : AreOf kinds others) :
    AreOf kinds (if c then found else others) := by
  split
  · exact h
  · exact h'

/-- Findings of two lists are of the kinds of both. -/
theorem append (h : AreOf kinds found) (h' : AreOf more others) :
    AreOf (kinds ++ more) (found ++ others) := by
  intro f hf
  rcases List.mem_append.mp hf with hf | hf
  · exact List.mem_append_left more (h f hf)
  · exact List.mem_append_right kinds (h' f hf)

/-- Some of the findings are of the same kinds. -/
theorem filter (h : AreOf kinds found) (keeps : Finding → Bool) :
    AreOf kinds (found.filter keeps) :=
  fun f hf => h f (List.mem_of_mem_filter hf)

/-- All findings of one kind are kept for that kind. -/
theorem filter_self (h : AreOf [kind] found) : found.filter (·.kind == kind) = found :=
  List.filter_eq_self.mpr fun f hf => beq_iff_eq.mpr (List.mem_singleton.mp (h f hf))

/-- And none for another one. -/
theorem filter_nil (h : AreOf kinds found) (hkind : kind ∉ kinds) :
    found.filter (·.kind == kind) = [] :=
  List.filter_eq_nil_iff.mpr fun f hf heq => hkind (beq_iff_eq.mp heq ▸ h f hf)

end AreOf

/-- What is found about secrets is of the three kinds. -/
theorem areOf_secretFindings : AreOf secretKinds (secretFindings values) := by
  intro f hf
  obtain ⟨key, -, hfinding⟩ := exists_key_of_secret hf
  exact (of_mem_findingsAbout hfinding).1

/-! ## The other findings -/

/-- The issue that a key of the example is missing. -/
def missingIssue (key : String) : Finding := .issue .missingEnvVar { subject := some key }

/-- The warning about unused keys. -/
def unusedKeys (keys : List String) : Finding :=
  .warning .unusedEnvVars { detail := some (String.intercalate ", " keys) }

/-- The keys of the first table that the second does not have. -/
def keysOutside (table other : Env.Table) : List String :=
  table.keys.filter (!other.keys.contains ·)

variable (actual expected : Option Env.Table)

/-- The issue that there is no environment file. -/
def fileIssues : List Finding := if actual.isSome then [] else [.issue .envFileMissing]

/-- The issues about missing keys. -/
def missingIssues : List Finding :=
  (keysOutside (expected.getD []) (actual.getD [])).map missingIssue

/-- The warning that there is no example. -/
def exampleWarnings : List Finding :=
  if expected.isSome then [] else [.warning .envExampleMissing { detail := some "recommended" }]

/-- The warning about unused keys, if there is an example and there are any. -/
def unusedWarnings : List Finding :=
  if expected.isSome = true ∧ keysOutside (actual.getD []) (expected.getD []) ≠ [] then
    [unusedKeys (keysOutside (actual.getD []) (expected.getD []))]
  else []

/-- The warning is one, and tells all of the keys. -/
theorem unusedWarning_eq (expected actual : Env.Table) :
    unusedWarning expected actual = if keysOutside actual expected ≠ [] then
      [unusedKeys (keysOutside actual expected)] else [] := by
  unfold unusedWarning keysOutside
  split
  · rename_i hnone
    rw [if_neg (not_not_intro hnone)]
  · rename_i hsome
    rw [if_pos hsome]
    rfl

/-- The warnings about values that break a promise of their keys. -/
def promiseWarnings : List Finding :=
  (actual.getD []).flatMap fun (key, value) => brokenPromises key value

theorem areOf_fileIssues : AreOf [.envFileMissing] (fileIssues actual) := .ite .nil (.single _)

theorem areOf_missingIssues : AreOf [.missingEnvVar] (missingIssues actual expected) := by
  intro f hf
  obtain ⟨key, -, rfl⟩ := List.mem_map.mp hf
  exact List.mem_singleton_self _

theorem areOf_exampleWarnings : AreOf [.envExampleMissing] (exampleWarnings expected) :=
  .ite .nil (.single _)

theorem areOf_unusedWarnings : AreOf [.unusedEnvVars] (unusedWarnings actual expected) :=
  .ite (.single _) .nil

theorem areOf_brokenPromises :
    AreOf [.invalidUrl, .invalidEmail, .invalidPort] (brokenPromises key value) := by
  intro f hf
  unfold brokenPromises at hf
  split at hf
  · cases hf
  · obtain ⟨⟨part, keeps, kind⟩, hpromise, hbroken⟩ := List.mem_filterMap.mp hf
    dsimp only at hbroken
    split at hbroken
    · cases hbroken
      have hkinds : promises.map (·.2.2) = [.invalidUrl, .invalidEmail, .invalidPort] := rfl
      rw [← hkinds]
      exact List.mem_map_of_mem hpromise
    · cases hbroken

theorem areOf_promiseWarnings :
    AreOf [.invalidUrl, .invalidEmail, .invalidPort] (promiseWarnings actual) := by
  intro f hf
  obtain ⟨entry, -, hbroken⟩ := List.mem_flatMap.mp hf
  exact areOf_brokenPromises f hbroken

/-! ## The report -/

/-- The issues are that there is no file, the missing keys, and issues about secrets. -/
theorem issues_verdict : (verdict actual expected).issues =
    fileIssues actual ++ missingIssues actual expected ++
      (secretFindings (actual.getD [])).filter (·.severity == .issue) := rfl

/-- The warnings are that there is no example, warnings about secrets, the unused keys, and broken
promises. -/
theorem warnings_verdict : (verdict actual expected).warnings =
    exampleWarnings expected ++ (secretFindings (actual.getD [])).filter (·.severity == .warning) ++
      unusedWarnings actual expected ++ promiseWarnings actual := by
  have hunused : (if expected.isSome then unusedWarning (expected.getD []) (actual.getD []) else []) =
      unusedWarnings actual expected := by
    unfold unusedWarnings
    cases expected.isSome with
    | false => rfl
    | true =>
      rw [unusedWarning_eq]
      simp
  rw [← hunused]
  rfl

/-- **Missing keys are reported in the order of the example.** -/
theorem filter_missing : (verdict actual expected).issues.filter (·.kind == .missingEnvVar) =
    missingIssues actual expected := by
  rw [issues_verdict, List.filter_append, List.filter_append,
    (areOf_fileIssues actual).filter_nil (by decide),
    (areOf_missingIssues actual expected).filter_self,
    (areOf_secretFindings.filter _).filter_nil (by decide), List.nil_append, List.append_nil]

/-- **The unused keys are told by one warning.** -/
theorem filter_unused : (verdict actual expected).warnings.filter (·.kind == .unusedEnvVars) =
    unusedWarnings actual expected := by
  rw [warnings_verdict, List.filter_append, List.filter_append, List.filter_append,
    (areOf_exampleWarnings expected).filter_nil (by decide),
    (areOf_secretFindings.filter _).filter_nil (by decide),
    (areOf_unusedWarnings actual expected).filter_self,
    (areOf_promiseWarnings actual).filter_nil (by decide), List.nil_append, List.nil_append,
    List.append_nil]

/-- What is reported are the findings about secrets and others. -/
theorem findings_perm : ∃ others : List Finding,
    (verdict actual expected).findings.Perm (secretFindings (actual.getD []) ++ others) ∧
      ∀ f ∈ others, f.kind ∉ secretKinds := by
  refine ⟨fileIssues actual ++ missingIssues actual expected ++ exampleWarnings expected ++
    unusedWarnings actual expected ++ promiseWarnings actual, ?_, fun f hf => ?_⟩
  · have hsplit : ((secretFindings (actual.getD [])).filter (·.severity == .issue) ++
        (secretFindings (actual.getD [])).filter (·.severity == .warning)).Perm
          (secretFindings (actual.getD [])) := by
      have hwarning : (fun f : Finding => f.severity == .warning) =
          fun f => !(f.severity == .issue) := by
        funext f
        cases f.severity <;> rfl
      rw [hwarning]
      exact List.filter_append_perm _ _
    rw [Verdict.findings, issues_verdict, warnings_verdict]
    refine List.perm_iff_count.mpr fun f => ?_
    have hcount := hsplit.count_eq f
    simp only [List.count_append] at hcount ⊢
    omega
  · have hothers := ((((areOf_fileIssues actual).append (areOf_missingIssues actual expected)).append
      (areOf_exampleWarnings expected)).append (areOf_unusedWarnings actual expected)).append
        (areOf_promiseWarnings actual)
    have hapart : ∀ kind ∈ [Kind.envFileMissing, .missingEnvVar, .envExampleMissing,
        .unusedEnvVars, .invalidUrl, .invalidEmail, .invalidPort], kind ∉ secretKinds := by
      decide
    exact hapart f.kind (hothers f hf)

/-- **What is reported about the secret of a key** is what is found about its value. -/
theorem filter_findings (hnodup : (actual.getD []).keys.Nodup)
    (hentry : (key, value) ∈ actual.getD []) :
    (verdict actual expected).findings.filter (findingsAbout key).contains =
      (secretFinding? key value).toList := by
  obtain ⟨others, hperm, hothers⟩ := findings_perm actual expected
  have hnone : others.filter (findingsAbout key).contains = [] :=
    List.filter_eq_nil_iff.mpr fun f hf habout =>
      hothers f hf (of_mem_findingsAbout (List.contains_iff_mem.mp habout)).1
  have hfilter := hperm.filter (findingsAbout key).contains
  rw [List.filter_append, hnone, List.append_nil, filter_secretFindings hnodup hentry] at hfilter
  cases hfound : secretFinding? key value with
  | none =>
    rw [hfound] at hfilter
    exact hfilter.eq_nil
  | some finding =>
    rw [hfound] at hfilter
    exact hfilter.eq_singleton

/-- So one of the three findings is reported if it is found. -/
theorem mem_findings_iff (hnodup : (actual.getD []).keys.Nodup)
    (hentry : (key, value) ∈ actual.getD []) {finding : Finding}
    (h : finding ∈ findingsAbout key) : finding ∈ (verdict actual expected).findings ↔
      secretFinding? key value = some finding := by
  rw [← Option.mem_toList, ← filter_findings actual expected hnodup hentry, List.mem_filter,
    List.contains_iff_mem, and_iff_left h]

/-- What the check reports of an environment file and its example, told by their tables. -/
structure Reports (hasFile hasExample : Bool) (actual expected : Env.Table) (v : Verdict) :
    Prop where
  passed : v.passed = true ↔ hasFile = true ∧ (∀ key ∈ expected.keys, key ∈ actual.keys) ∧
    (∀ entry ∈ actual, NamesSecret entry.1 → entry.2 ≠ "") ∧
      ∀ entry ∈ actual, Holds "SECRET" entry.1 → 32 ≤ entry.2.length
  /-- The keys of the example that the file does not have, in order and once each. -/
  missing : v.issues.filter (·.kind == .missingEnvVar) =
    (keysOutside expected actual).map missingIssue ∧ (keysOutside expected actual).Nodup
  /-- Of the three findings about a secret, a key has one at most. -/
  atMostOne : ∀ key ∈ actual.keys, (v.findings.filter (findingsAbout key).contains).length ≤ 1
  empty : ∀ entry ∈ actual,
    (emptyIssue entry.1 ∈ v.findings ↔ NamesSecret entry.1 ∧ entry.2 = "")
  weak : ∀ entry ∈ actual, (weakIssue entry.1 ∈ v.findings ↔
    Holds "SECRET" entry.1 ∧ entry.2 ≠ "" ∧ entry.2.length < 32)
  short : ∀ entry ∈ actual, (shortWarning entry.1 ∈ v.findings ↔
    1 ≤ entry.2.length ∧ entry.2.length ≤ 15 ∧
      (Holds "PASSWORD" entry.1 ∨ Holds "KEY" entry.1) ∧ ¬ Holds "SECRET" entry.1)
  /-- Nothing is reported about a secret of any other key. -/
  ofKeys : ∀ f ∈ v.findings, f.kind ∈ secretKinds → ∃ key ∈ actual.keys, f ∈ findingsAbout key
  unused : v.warnings.filter (·.kind == .unusedEnvVars) =
    if hasExample = true ∧ keysOutside actual expected ≠ [] then
      [unusedKeys (keysOutside actual expected)]
    else []

/-- **The result for two tables reports them.** -/
theorem reports_verdict (hactual : (actual.getD []).keys.Nodup)
    (hexpected : (expected.getD []).keys.Nodup)
    (hascii : ∀ key ∈ (actual.getD []).keys, IsAscii key.toList) :
    Reports actual.isSome expected.isSome (actual.getD []) (expected.getD [])
      (verdict actual expected) := by
  have hkey : ∀ entry ∈ actual.getD [], IsAscii entry.1.toList := fun entry hentry =>
    hascii entry.1 (List.mem_map_of_mem hentry)
  refine ⟨?_, ⟨filter_missing actual expected, hexpected.filter _⟩, ?_, ?_, ?_, ?_, ?_,
    filter_unused actual expected⟩
  · rw [verdict_passed]
    cases actual with
    | none => simp
    | some values =>
      rw [Option.getD_some] at hascii
      simp only [Option.some.injEq, exists_eq_left', Option.isSome_some, true_and,
        Option.getD_some, secretsHold_iff hascii]
  · intro key hmem
    obtain ⟨⟨_, value⟩, hentry, rfl⟩ := List.mem_map.mp hmem
    rw [filter_findings actual expected hactual hentry]
    exact Option.length_toList_le
  · rintro ⟨key, value⟩ hentry
    rw [mem_findings_iff actual expected hactual hentry (by simp [findingsAbout]),
      secretFinding?_iff (hkey _ hentry)]
    simp [emptyIssue, weakIssue, shortWarning, Finding.issue, Finding.warning]
  · rintro ⟨key, value⟩ hentry
    rw [mem_findings_iff actual expected hactual hentry (by simp [findingsAbout]),
      secretFinding?_iff (hkey _ hentry)]
    simp [emptyIssue, weakIssue, shortWarning, Finding.issue, Finding.warning]
  · rintro ⟨key, value⟩ hentry
    rw [mem_findings_iff actual expected hactual hentry (by simp [findingsAbout]),
      secretFinding?_iff (hkey _ hentry)]
    simp [emptyIssue, weakIssue, shortWarning, Finding.issue, Finding.warning]
  · intro f hf hkind
    obtain ⟨others, hperm, hothers⟩ := findings_perm actual expected
    rcases List.mem_append.mp (hperm.mem_iff.mp hf) with hsecret | hother
    · exact exists_key_of_secret hsecret
    · exact absurd hkind (hothers f hother)

/-! ## The tables of a project -/

/-- The table of the file at a path, which is empty if there is none. -/
def tableAt (disk : Disk) (path : Path) : Env.Table :=
  match disk.readText? path with
  | .ok (some text) => .ofText text
  | _ => []

/-- Each key is there once. -/
theorem nodup_tableAt (disk : Disk) (path : Path) : (tableAt disk path).keys.Nodup := by
  unfold tableAt
  split
  · rw [Env.Table.ofText, Env.Table.ofStatements, Env.Table.ofBindings_eq]
    exact Pairs.nodup_keys_putAll _
  · exact List.nodup_nil

/-- The table of a file is there if the file is; only too long a path is refused. -/
theorem table?_cases (disk : Disk) (path : Path) :
    (disk.isFile path = .error .nameTooLong ∧ table? disk path = .error .nameTooLong) ∨
      ∃ table, disk.isFile path = .ok table.isSome ∧ table? disk path = .ok table ∧
        table.getD [] = tableAt disk path := by
  unfold table? loadTable tableAt Disk.isFile Disk.leadsTo Disk.readText?
  cases disk.stat path with
  | ok node =>
    cases node with
    | file content stamp => exact .inr ⟨some _, rfl, rfl, rfl⟩
    | directory => exact .inr ⟨none, rfl, rfl, rfl⟩
    | link target => exact .inr ⟨none, rfl, rfl, rfl⟩
  | error failure =>
    cases failure
    case nameTooLong => exact .inl ⟨rfl, rfl⟩
    all_goals exact .inr ⟨none, rfl, rfl, rfl⟩

/-- What stands at a path decides whether it is a file, and what its table is. -/
theorem of_stat_file {disk : Disk} {path : Path} {content : List UInt8} {stamp : Int}
    (h : disk.stat path = .ok (.file content stamp)) :
    disk.isFile path = .ok true ∧
      tableAt disk path = .ofText (Text.Utf8.fileText content) := by
  unfold tableAt
  rw [Disk.isFile, Disk.leadsTo, Disk.readText?, h]
  exact ⟨rfl, rfl⟩

theorem of_stat_nameTooLong {disk : Disk} {path : Path}
    (h : disk.stat path = .error .nameTooLong) :
    disk.isFile path = .error .nameTooLong ∧ tableAt disk path = [] := by
  unfold tableAt
  rw [Disk.isFile, Disk.leadsTo, Disk.readText?, h]
  exact ⟨rfl, rfl⟩

/-- The check on its own compares the tables of the two files. -/
theorem runFresh_env (p : Project) : Module.env.runFresh p = Module.env.settle (do
    let actual ← table? p.disk (p.root / ".env")
    let expected ← table? p.disk (p.root / ".env.example")
    return verdict actual expected) := by
  rw [Module.runFresh_eq, ← eval_run]
  rfl

/-- Too long a path to one of the files stops the check. -/
theorem stopped_of_nameTooLong {p : Project}
    (h : p.disk.isFile (p.root / ".env") = .error .nameTooLong ∨
      p.disk.isFile (p.root / ".env.example") = .error .nameTooLong) :
    Module.env.runFresh p = .stopped "env" "OSError" := by
  rw [runFresh_env]
  rcases table?_cases p.disk (p.root / ".env") with ⟨-, htable⟩ | ⟨actual, hfile, htable, -⟩
  · rw [htable]
    rfl
  · rcases table?_cases p.disk (p.root / ".env.example") with ⟨-, hnone⟩ | ⟨_, hexample, -⟩
    · rw [htable, hnone]
      rfl
    · rw [hfile, hexample] at h
      rcases h with h | h <;> cases h

/-- **What the environment check reports.** Unless the path to one of the two files is too long,
which stops the check, it reports what there is to report of their tables. -/
theorem environment_reports (p : Project)
    (hascii : ∀ key ∈ (tableAt p.disk (p.root / ".env")).keys, IsAscii key.toList) :
    ((p.disk.isFile (p.root / ".env") = .error .nameTooLong ∨
      p.disk.isFile (p.root / ".env.example") = .error .nameTooLong) ∧
        Module.env.runFresh p = .stopped "env" "OSError") ∨
    ∃ hasFile hasExample, p.disk.isFile (p.root / ".env") = .ok hasFile ∧
      p.disk.isFile (p.root / ".env.example") = .ok hasExample ∧
        Reports hasFile hasExample (tableAt p.disk (p.root / ".env"))
          (tableAt p.disk (p.root / ".env.example")) (Module.env.runFresh p) := by
  rcases table?_cases p.disk (p.root / ".env") with ⟨hlong, -⟩ | ⟨actual, hfile, htable, hactual⟩
  · exact .inl ⟨.inl hlong, stopped_of_nameTooLong (.inl hlong)⟩
  · rcases table?_cases p.disk (p.root / ".env.example") with
      ⟨hlong, -⟩ | ⟨expected, hexample, hsome, hexpected⟩
    · exact .inl ⟨.inr hlong, stopped_of_nameTooLong (.inr hlong)⟩
    · have hrun : Module.env.runFresh p = verdict actual expected := by
        rw [runFresh_env, htable, hsome]
        rfl
      have hreports := reports_verdict actual expected (hactual ▸ nodup_tableAt ..)
        (hexpected ▸ nodup_tableAt ..) (hactual ▸ hascii)
      rw [hactual, hexpected, ← hrun] at hreports
      exact .inr ⟨_, _, hfile, hexample, hreports⟩

/-- A project whose environment file has a short password and lacks a key of the example. -/
def passwordProject : Project where
  disk := ⟨[(["p"], .directory),
    (["p", ".env"], .file (Text.Utf8.encode "DB_PASSWORD=pw\nB=1\n") 1),
    (["p", ".env.example"], .file (Text.Utf8.encode "A=\nDB_PASSWORD=\n") 1)]⟩
  root := ⟨.top, ["p"]⟩

/-- Its tables are reported: the password is short, one key is missing, and one is unused. -/
theorem password_reports :
    let p := passwordProject
    (∀ key ∈ (tableAt p.disk (p.root / ".env")).keys, IsAscii key.toList) ∧
      Reports true true [("DB_PASSWORD", "pw"), ("B", "1")] [("A", ""), ("DB_PASSWORD", "")]
        (Module.env.runFresh p) := by
  intro p
  have hfile : p.disk.isFile (p.root / ".env") = .ok true := by decide +kernel
  have hexample : p.disk.isFile (p.root / ".env.example") = .ok true := by decide +kernel
  have hactual : tableAt p.disk (p.root / ".env") = [("DB_PASSWORD", "pw"), ("B", "1")] := by
    decide +kernel
  have hexpected : tableAt p.disk (p.root / ".env.example") = [("A", ""), ("DB_PASSWORD", "")] := by
    decide +kernel
  have hascii : ∀ key ∈ (tableAt p.disk (p.root / ".env")).keys, IsAscii key.toList := by
    rw [hactual]
    decide
  refine ⟨hascii, ?_⟩
  rcases environment_reports p hascii with
    ⟨hlong | hlong, -⟩ | ⟨hasFile, hasExample, hasFile_eq, hasExample_eq, hreports⟩
  · rw [hfile] at hlong
    cases hlong
  · rw [hexample] at hlong
    cases hlong
  · obtain rfl := Except.ok.inj (hfile.symm.trans hasFile_eq)
    obtain rfl := Except.ok.inj (hexample.symm.trans hasExample_eq)
    rwa [hactual, hexpected] at hreports

/-- A project whose example is a link. -/
def linkProject (target : String) : Project where
  disk := ⟨[(["p"], .directory), (["p", ".env"], .file (Text.Utf8.encode "A=1\n") 1),
    (["p", ".env.example"], .link target)]⟩
  root := ⟨.top, ["p"]⟩

/-- A link to a name that is too long leads to no file, and to no answer either. -/
theorem stat_linkProject {target : String} (hname : Path.IsName target.toList)
    (hlong : Disk.maxNameBytes < target.utf8ByteSize) :
    (linkProject target).disk.stat ((linkProject target).root / ".env.example") =
      .error .nameTooLong := by
  have hpath : (linkProject target).root / ".env.example" = ⟨.top, ["p", ".env.example"]⟩ := rfl
  have hcheck : Disk.checkPath ⟨.top, ["p", ".env.example"]⟩ = .ok () := by decide +kernel
  rw [Disk.stat, Disk.locate, hpath, hcheck]
  simp [Disk.walk, Disk.walkNames, Disk.maxLinks, Disk.node?, linkProject,
    Path.ofString_name hname, hlong, List.lookup_cons]

/-- The table of the environment file is read. -/
theorem tableAt_linkProject (target : String) :
    (linkProject target).disk.isFile ((linkProject target).root / ".env") = .ok true ∧
      tableAt (linkProject target).disk ((linkProject target).root / ".env") = [("A", "1")] := by
  have hpath : (linkProject target).root / ".env" = ⟨.top, ["p", ".env"]⟩ := rfl
  have hcheck : Disk.checkPath ⟨.top, ["p", ".env"]⟩ = .ok () := by decide +kernel
  have hstat : (linkProject target).disk.stat ((linkProject target).root / ".env") =
      .ok (.file (Text.Utf8.encode "A=1\n") 1) := by
    have hsmall : ¬ Disk.maxNameBytes < "p".utf8ByteSize ∧
        ¬ Disk.maxNameBytes < ".env".utf8ByteSize := by decide +kernel
    rw [Disk.stat, Disk.locate, hpath, hcheck]
    simp [Disk.walk, Disk.walkNames, Disk.maxLinks, Disk.node?, linkProject, hsmall,
      List.lookup_cons]
  have htable : Env.Table.ofText (Text.Utf8.fileText (Text.Utf8.encode "A=1\n")) = [("A", "1")] := by
    decide +kernel
  obtain ⟨hfile, hactual⟩ := of_stat_file hstat
  exact ⟨hfile, hactual.trans htable⟩

/-- There is no example, nothing is missing and there is no secret, and yet the check does not pass:
the link to too long a name stops it. -/
theorem long_link_stops_environment :
    let p := linkProject Disk.longName
    p.disk.isFile (p.root / ".env") = .ok true ∧
      tableAt p.disk (p.root / ".env") = [("A", "1")] ∧
      tableAt p.disk (p.root / ".env.example") = [] ∧ ¬ NamesSecret "A" ∧
        Module.env.runFresh p = .stopped "env" "OSError" ∧
          (Module.env.runFresh p).passed = false := by
  intro p
  obtain ⟨hfile, hactual⟩ := tableAt_linkProject Disk.longName
  obtain ⟨hlong, hexpected⟩ := of_stat_nameTooLong
    (stat_linkProject Disk.isName_longName (by decide +kernel))
  have hplain : ¬ NamesSecret "A" := by
    unfold NamesSecret Holds
    decide
  have hstopped := stopped_of_nameTooLong (.inr hlong)
  exact ⟨hfile, hactual, hexpected, hplain, hstopped, by rw [hstopped]; rfl⟩

end Preflight.Check.Environment

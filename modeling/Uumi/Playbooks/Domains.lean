import Uumi.Foundations.NamePatterns
import Uumi.Inventory.Registry
import Uumi.Playbooks.Service

/-! Which hosts a browser session admits, and when the coverage checks of the playbook service and of the inventory are
sound for them. -/
namespace Uumi.Playbooks
open Uumi.Contracts Uumi.Core Uumi.Foundations

section
variable (characters : CharacterFunctions)

/-- `_domain`: a hostname is the domain of a pattern, or below its suffix. -/
def domain (hostname pattern : String) : Bool :=
  let expected := normalisedDomain characters pattern
  if isWildcard expected then isBelow hostname.toList (expected.toList.drop 2) && hostname.toList ≠ expected.toList.drop 2
  else hostname = expected

/-- What `urlparse` finds in an address. -/
structure ParsedUrl where
  scheme : String
  hostname : Option String
  username : Option String
  password : Option String

def admits (allowed : List String) (hostname : String) : Bool := allowed.any fun pattern => domain characters hostname pattern

def validateUrl (allowed : List String) (url : ParsedUrl) : Except Error Unit := do
  raiseIf (url.scheme ≠ "https" ∨ (url.hostname.getD "") = "" ∨ (url.username.getD "") ≠ "" ∨ (url.password.getD "") ≠ "")
    (.resourceConflict "browser navigation requires a credential-free HTTPS URL")
  let hostname := normalisedDomain characters (url.hostname.getD "")
  raiseIf (admits characters allowed hostname = false)
    (.authenticationRequired s!"provider session left the allowlist at {hostname}")

/-- The checks of `attach` on the version and the connection that it reads. -/
def attach (version : PlaybookVersion) (connection : Connection) : Except Error Unit := do
  raiseIf (version.state ≠ .published) (.playbook "browser connections require a published playbook version")
  raiseIf (connection.interface ≠ .browser ∨ connection.roles ≠ {.provider})
    (.playbook "playbooks can only attach to browser provider connections")
  raiseIf (connection.platform ≠ version.definition.platform)
    (.playbook "connection platform does not match the playbook")
  raiseIf (∃ domain ∈ version.definition.allowedDomains, domainCovered characters domain connection.allowedResources = false)
    (.playbook "playbook domains are not covered by the browser connection")

@[irreducible] def patternOf (value : String) : NamePattern Char :=
  let expected := normalisedDomain characters value
  if isWildcard expected then .below (expected.toList.drop 2) else .exact expected.toList

variable {characters}

private theorem isWildcard_eq_true {value : String} :
    isWildcard value = true ↔ ∃ suffix, value.toList = '*' :: '.' :: suffix := by
  rw [isWildcard, List.isPrefixOf_iff_prefix]
  constructor
  · rintro ⟨suffix, h⟩
    exact ⟨suffix, h.symm⟩
  · rintro ⟨suffix, h⟩
    exact ⟨suffix, h.symm⟩

private theorem isBelow_eq_true {text suffix : List Char} : isBelow text suffix = true ↔ '.' :: suffix <:+ text :=
  List.isSuffixOf_iff_suffix

private theorem ne_of_below {text suffix : List Char} (h : '.' :: suffix <:+ text) : text ≠ suffix := by
  rintro rfl
  have := h.length_le
  rw [List.length_cons] at this
  omega

/-- The driver matches what a pattern means. -/
theorem domain_iff {hostname pattern : String} :
    domain characters hostname pattern = true ↔ (patternOf characters pattern).Matches '.' hostname.toList := by
  unfold domain patternOf
  by_cases wildcard : isWildcard (normalisedDomain characters pattern) = true
  · simp only [wildcard, if_true, Bool.and_eq_true, decide_eq_true_eq, isBelow_eq_true]
    exact ⟨fun h => h.1, fun h => ⟨h, ne_of_below h⟩⟩
  · rw [if_neg wildcard, if_neg wildcard, decide_eq_true_eq]
    exact String.toList_inj.symm

private theorem admits_iff {allowed : List String} {hostname : String} :
    admits characters allowed hostname = true ↔
      ∃ pattern ∈ allowed, (patternOf characters pattern).Matches '.' hostname.toList := by
  rw [admits, List.any_eq_true]
  exact exists_congr fun pattern => and_congr_right fun _ => domain_iff

/-- The check of saved states and coverage is the one of the driver. -/
theorem allowedDomain_eq {hostname : String} {allowed : List String} :
    allowedDomain characters hostname allowed = admits characters allowed hostname := by
  unfold allowedDomain admits domain
  rfl

/-- Texts in lower case, without dots at the end, that the inventory's rule accepts. -/
def NormallyCovered (characters : CharacterFunctions) (need : String) (allowed : List String) : Prop :=
  Inventory.domainCovered (normalisedDomain characters need) (allowed.map (normalisedDomain characters)) = true

/-- The inventory's rule, on normalised texts, says which pattern dominates another. -/
theorem dominates_iff {need pattern : String} :
    (patternOf characters pattern).Dominates '.' (patternOf characters need) ↔
      (normalisedDomain characters need = normalisedDomain characters pattern ∨
        isWildcard (normalisedDomain characters pattern) = true ∧
          (normalisedDomain characters pattern).toList.drop 1 <:+ (normalisedDomain characters need).toList) := by
  unfold patternOf
  generalize normalisedDomain characters need = needed
  generalize normalisedDomain characters pattern = expected
  by_cases wild : isWildcard expected = true
  · obtain ⟨parent, hparent⟩ := isWildcard_eq_true.mp wild
    have hdrop : expected.toList.drop 2 = parent := congrArg (List.drop 2) hparent
    have hdrop' : expected.toList.drop 1 = '.' :: parent := congrArg (List.drop 1) hparent
    rw [if_pos wild, hdrop, hdrop']
    by_cases wildNeed : isWildcard needed = true
    · obtain ⟨suffix, hsuffix⟩ := isWildcard_eq_true.mp wildNeed
      have hdropNeed : needed.toList.drop 2 = suffix := congrArg (List.drop 2) hsuffix
      rw [if_pos wildNeed, hdropNeed, hsuffix]
      change '.' :: parent <:+ '.' :: suffix ↔ _
      constructor
      · exact fun h => .inr ⟨wild, h.trans (List.suffix_cons _ _)⟩
      · rintro (same | ⟨_, h⟩)
        · rw [← hdrop, ← hdropNeed, same]
        · rcases List.suffix_cons_iff.mp h with h | h
          · exact absurd (List.cons.inj h).1 (by decide)
          · exact h
    · rw [if_neg wildNeed]
      constructor
      · exact fun h => .inr ⟨wild, h⟩
      · rintro (same | ⟨_, h⟩)
        · exact absurd (same ▸ wild) wildNeed
        · exact h
  · rw [if_neg wild]
    by_cases wildNeed : isWildcard needed = true
    · rw [if_pos wildNeed]
      constructor
      · exact fun h => absurd h id
      · rintro (same | ⟨h, _⟩)
        · exact absurd (same ▸ wildNeed) wild
        · exact absurd h wild
    · rw [if_neg wildNeed]
      constructor
      · exact fun h => .inl (String.toList_inj.mp h).symm
      · rintro (same | ⟨h, _⟩)
        · exact congrArg String.toList same.symm
        · exact absurd h wild

private theorem normallyCovered_iff {need : String} {allowed : List String} :
    NormallyCovered characters need allowed ↔
      ∃ pattern ∈ allowed, (patternOf characters pattern).Dominates '.' (patternOf characters need) := by
  unfold NormallyCovered Inventory.domainCovered
  simp only [List.any_map, List.any_eq_true, Function.comp, Bool.or_eq_true, Bool.and_eq_true, decide_eq_true_eq,
    List.isSuffixOf_iff_suffix, dominates_iff]
  rfl

/-- Every hostname that one pattern admits is admitted by some patterns exactly when one of them dominates it. -/
theorem hostnames_admitted_iff {need : String} {allowed : List String} :
    (∀ hostname, admits characters [need] hostname = true → admits characters allowed hostname = true) ↔
      NormallyCovered characters need allowed := by
  have covered := NamePattern.covered_iff (show 'a' ≠ '.' by decide) (patternOf characters need)
    (allowed.map (patternOf characters))
  simp only [List.mem_map, exists_exists_and_eq_and] at covered
  rw [normallyCovered_iff, ← covered]
  simp only [admits_iff, List.mem_singleton, exists_eq_left]
  constructor
  · intro h name hname
    have := h (String.ofList name)
    rw [String.toList_ofList] at this
    exact this hname
  · exact fun h hostname => h hostname.toList

/-- A wildcard is accepted because its parent, or a name above it, is allowed itself. -/
def ThroughExact (characters : CharacterFunctions) (need : String) (allowed : List String) : Prop :=
  ∃ suffix, patternOf characters need = .below suffix ∧
    ∃ pattern ∈ allowed, ∃ name, patternOf characters pattern = .exact name ∧ (suffix = name ∨ '.' :: name <:+ suffix)

private theorem dominates_of_eq {need pattern : String}
    (same : normalisedDomain characters pattern = normalisedDomain characters need) :
    (patternOf characters pattern).Dominates '.' (patternOf characters need) :=
  dominates_iff.mpr (.inl same.symm)

private theorem isSuffixOf_cons {parent suffix : List Char} :
    '.' :: parent <:+ '.' :: suffix ↔ suffix = parent ∨ '.' :: parent <:+ suffix := by
  rw [List.suffix_cons_iff, List.cons.injEq]
  exact or_congr_left ⟨fun h => h.2.symm, fun h => ⟨rfl, h.symm⟩⟩

private theorem coversWildcard_iff {suffix : List Char} {pattern : String} :
    ((suffix = if isWildcard (normalisedDomain characters pattern) then
          (normalisedDomain characters pattern).toList.drop 2 else (normalisedDomain characters pattern).toList) ∨
        isBelow suffix (if isWildcard (normalisedDomain characters pattern) then
          (normalisedDomain characters pattern).toList.drop 2 else (normalisedDomain characters pattern).toList) = true) ↔
      (patternOf characters pattern).Dominates '.' (.below suffix) ∨
        ∃ name, patternOf characters pattern = .exact name ∧ (suffix = name ∨ '.' :: name <:+ suffix) := by
  simp only [isBelow_eq_true]
  unfold patternOf
  by_cases wild : isWildcard (normalisedDomain characters pattern) = true
  · rw [if_pos wild, if_pos wild]
    constructor
    · exact fun h => .inl (isSuffixOf_cons.mpr h)
    · rintro (h | ⟨name, h, _⟩)
      · exact isSuffixOf_cons.mp h
      · cases h
  · rw [if_neg wild, if_neg wild]
    constructor
    · exact fun h => .inr ⟨_, rfl, h⟩
    · rintro (h | ⟨name, h, hname⟩)
      · exact absurd h id
      · rw [NamePattern.exact.inj h]
        exact hname

/-- `domain_covered` accepts what is dominated, and wildcards through allowed names. -/
theorem domainCovered_iff {need : String} {allowed : List String} :
    domainCovered characters need allowed = true ↔
      NormallyCovered characters need allowed ∨ ThroughExact characters need allowed := by
  rw [normallyCovered_iff]
  unfold domainCovered ThroughExact
  simp only [Bool.or_eq_true, Bool.and_eq_true, decide_eq_true_eq, allowedDomain_eq, admits_iff, List.any_map, List.any_eq_true,
    Function.comp, List.mem_map]
  by_cases wild : isWildcard (normalisedDomain characters need) = true
  · have hneed : patternOf characters need = .below ((normalisedDomain characters need).toList.drop 2) := by
      rw [patternOf, if_pos wild]
    simp only [wild, if_true, true_and, String.toList_ofList, hneed, NamePattern.below.injEq, exists_eq_left',
      coversWildcard_iff]
    constructor
    · rintro ((⟨pattern, hpattern, same⟩ | ⟨pattern, hpattern, hmatch⟩) | ⟨pattern, hpattern, h⟩)
      · have h := dominates_of_eq same
        rw [hneed] at h
        exact .inl ⟨pattern, hpattern, h⟩
      · cases kind : patternOf characters pattern with
        | exact name => exact .inr ⟨pattern, hpattern, name, kind, .inl (by rw [kind] at hmatch; exact hmatch)⟩
        | below parent =>
          rw [kind] at hmatch
          refine .inl ⟨pattern, hpattern, ?_⟩
          rw [kind]
          exact isSuffixOf_cons.mpr (.inr hmatch)
      · rcases h with h | h
        · exact .inl ⟨pattern, hpattern, h⟩
        · exact .inr ⟨pattern, hpattern, h⟩
    · rintro (⟨pattern, hpattern, h⟩ | ⟨pattern, hpattern, h⟩)
      · exact .inr ⟨pattern, hpattern, .inl h⟩
      · exact .inr ⟨pattern, hpattern, .inr h⟩
  · have hneed : patternOf characters need = .exact (normalisedDomain characters need).toList := by
      rw [patternOf, if_neg wild]
    simp only [wild, Bool.false_eq_true, if_false, false_and, or_false, hneed, reduceCtorEq, exists_false]
    constructor
    · rintro (⟨pattern, hpattern, same⟩ | ⟨pattern, hpattern, h⟩)
      · have h := dominates_of_eq same
        rw [hneed] at h
        exact ⟨pattern, hpattern, h⟩
      · exact ⟨pattern, hpattern, NamePattern.matches_iff.mp h⟩
    · rintro ⟨pattern, hpattern, h⟩
      exact .inr ⟨pattern, hpattern, NamePattern.matches_iff.mpr h⟩

private theorem coverage_iff {need : String} {allowed : List String} :
    ((domainCovered characters need allowed = true →
        ∀ hostname, admits characters [need] hostname = true → admits characters allowed hostname = true) ∧
      (Inventory.domainCovered need allowed = true → domainCovered characters need allowed = true)) ↔
      (ThroughExact characters need allowed → NormallyCovered characters need allowed) ∧
        (Inventory.domainCovered need allowed = true → NormallyCovered characters need allowed) := by
  rw [hostnames_admitted_iff, domainCovered_iff]
  constructor
  · rintro ⟨sound, inventory⟩
    refine ⟨fun through => sound (.inr through), fun h => ?_⟩
    rcases inventory h with normally | through
    · exact normally
    · exact sound (.inr through)
  · rintro ⟨through, inventory⟩
    refine ⟨?_, fun h => .inl (inventory h)⟩
    rintro (normally | h)
    · exact normally
    · exact through h

private theorem attach_covered {version : PlaybookVersion} {connection : Connection}
    (h : attach characters version connection = .ok ()) {domain : String} (hdomain : domain ∈ version.definition.allowedDomains) :
    domainCovered characters domain connection.allowedResources = true := by
  unfold attach at h
  simp only [unit_bind_ok, raiseIf_ok] at h
  obtain ⟨_, _, _, h⟩ := h
  by_contra uncovered
  exact h ⟨domain, hdomain, by simpa using uncovered⟩

private theorem session_hosts_iff {domains allowed : List String} :
    (∀ hostname, admits characters domains hostname = true → admits characters allowed hostname = true) ↔
      ∀ domain ∈ domains, NormallyCovered characters domain allowed := by
  constructor
  · intro h domain hdomain
    refine hostnames_admitted_iff.mp fun hostname hhost => h hostname ?_
    obtain ⟨pattern, hpattern, hmatch⟩ := admits_iff.mp hhost
    exact admits_iff.mpr ⟨domain, hdomain, List.mem_singleton.mp hpattern ▸ hmatch⟩
  · intro h hostname hhost
    obtain ⟨pattern, hpattern, hmatch⟩ := admits_iff.mp hhost
    exact hostnames_admitted_iff.mpr (h pattern hpattern) hostname (admits_iff.mpr ⟨pattern, List.mem_singleton_self _, hmatch⟩)

/-- What a session of an attached playbook opens, a session for the resources of the connection opens too. -/
theorem opened_within_resources {version : PlaybookVersion} {connection : Connection} {url : ParsedUrl}
    (attached : attach characters version connection = .ok ())
    (covered : ∀ domain ∈ version.definition.allowedDomains, ¬ ThroughExact characters domain connection.allowedResources)
    (opened : validateUrl characters version.definition.allowedDomains url = .ok ()) :
    validateUrl characters connection.allowedResources url = .ok () := by
  unfold validateUrl at opened ⊢
  simp only [unit_bind_ok, raiseIf_ok, Bool.not_eq_false] at opened ⊢
  refine ⟨opened.1, session_hosts_iff.mpr (fun domain hdomain => ?_) _ opened.2⟩
  rcases domainCovered_iff.mp (attach_covered attached hdomain) with normally | through
  · exact normally
  · exact absurd through (covered domain hdomain)

variable (characters)

/-- Coverage is sound except for wildcards that only an allowed name covers, and for texts that the inventory accepts
as they stand but not normalised; and so are the hosts that an attached playbook can reach. -/
theorem coverage_sound_iff :
    (∀ need allowed,
      ((domainCovered characters need allowed = true →
          ∀ hostname, admits characters [need] hostname = true → admits characters allowed hostname = true) ∧
        (Inventory.domainCovered need allowed = true → domainCovered characters need allowed = true)) ↔
        (ThroughExact characters need allowed → NormallyCovered characters need allowed) ∧
          (Inventory.domainCovered need allowed = true → NormallyCovered characters need allowed)) ∧
    ∀ (version : PlaybookVersion) (connection : Connection), attach characters version connection = .ok () →
      ((∀ hostname, admits characters version.definition.allowedDomains hostname = true →
          admits characters connection.allowedResources hostname = true) ↔
        ∀ domain ∈ version.definition.allowedDomains, ThroughExact characters domain connection.allowedResources →
          NormallyCovered characters domain connection.allowedResources) := by
  refine ⟨fun need allowed => coverage_iff, fun version connection attached => ?_⟩
  rw [session_hosts_iff]
  constructor
  · exact fun h domain hdomain _ => h domain hdomain
  · intro h domain hdomain
    rcases domainCovered_iff.mp (attach_covered attached hdomain) with normally | through
    · exact normally
    · exact h domain hdomain through

end

def asciiCharacters : CharacterFunctions where
  lower text := String.ofList (text.toList.map Char.toLower)
  alphanumeric := Char.isAlphanum

/-- An allowed name covers the wildcard below it, but a session that allows the name admits none of its subdomains. -/
theorem subdomains_covered :
    domainCovered asciiCharacters "*.example.com" ["example.com"] = true ∧
      admits asciiCharacters ["*.example.com"] "a.example.com" = true ∧
      admits asciiCharacters ["example.com"] "a.example.com" = false ∧
      Inventory.domainCovered "*.example.com" ["example.com"] = false := by
  decide +kernel

end Uumi.Playbooks

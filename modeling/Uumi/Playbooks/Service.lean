import Uumi.Broker.Validate
import Uumi.Policy.Payloads
import Uumi.Storage.Playbooks

/-! The playbook service: the definitions that it accepts, and the edits of a playbook. -/
namespace Uumi.Playbooks
open Uumi.Broker Uumi.Contracts Uumi.Core Uumi.Foundations Uumi.Policy Uumi.Storage

/-- What the service uses of the standard library: lower case, and which characters are letters or digits. -/
structure CharacterFunctions where
  lower : String → String
  alphanumeric : Char → Bool

variable (characters : CharacterFunctions)

def isDomainPattern (value : String) : Bool :=
  value ≠ "" ∧ '.' ∈ value.toList ∧ ∀ c ∈ value.toList, characters.alphanumeric c ∨ c ∈ ['.', '-', '*']

def normalisedDomain (value : String) : String :=
  String.ofList ((characters.lower value).toList.rdropWhile (· = '.'))

def isWildcard (domain : String) : Bool := ['*', '.'].isPrefixOf domain.toList

def isBelow (text suffix : List Char) : Bool := ('.' :: suffix).isSuffixOf text

def allowedDomain (hostname : String) (allowed : List String) : Bool :=
  allowed.any fun pattern =>
    let expected := normalisedDomain characters pattern
    if isWildcard expected then isBelow hostname.toList (expected.toList.drop 2) && hostname.toList ≠ expected.toList.drop 2
    else hostname = expected

def domainCovered (need : String) (allowed : List String) : Bool :=
  let needed := normalisedDomain characters need
  let normalised := allowed.map (normalisedDomain characters)
  let host := if isWildcard needed then String.ofList (needed.toList.drop 2) else needed
  needed ∈ normalised || allowedDomain characters host allowed ||
    (isWildcard needed && normalised.any fun pattern =>
      let suffix := needed.toList.drop 2
      let parent := if isWildcard pattern then pattern.toList.drop 2 else pattern.toList
      suffix = parent || isBelow suffix parent)

/-- `urlparse(url).scheme`. -/
def urlScheme (url : String) : String :=
  let text := (url.toList.dropWhile (·.toNat ≤ 32)).filter (· ∉ ['\t', '\r', '\n'])
  let scheme := text.takeWhile (· ≠ ':')
  if afterScheme text = text then "" else characters.lower (String.ofList scheme)

/-- The addresses of a definition: of its login page, of its checkpoints and of its navigations. -/
def addresses (definition : PlaybookDraft) : List String :=
  (definition.loginUrlPattern.map Text.value).toList ++
    definition.steps.filterMap (fun step => step.checkpoint.map (·.urlPattern.value)) ++
    definition.steps.filterMap fun step =>
      match step.navigation, step.parameters.lookup "url" with
      | true, some (.text url) => some url
      | _, _ => none

def validateAddresses (domains : List String) : List String → Except Error Unit
  | [] => .ok ()
  | pattern :: rest => do
    let hostname ← urlHostname characters.lower pattern
    raiseIf (urlScheme characters pattern ≠ "https" ∨
        hostname.elim true (fun host => !domainCovered characters host domains))
      (.playbook "browser checkpoint escapes the playbook domains")
    validateAddresses domains rest

def invalidStages (definition : PlaybookDraft) : List String :=
  (((definition.steps.map fun step => step.stage).filter fun stage => stage ≠ .create ∧ stage ≠ .revoke).map
    Stage.value).dedup.insertionSort (· ≤ ·)

def validateDefinition (definition : PlaybookDraft) : Except Error Unit := do
  raiseIf (invalidStages definition ≠ [])
    (.playbook ("browser playbook contains non-browser lifecycle stages: " ++ ", ".intercalate (invalidStages definition)))
  raiseIf (∃ step ∈ definition.steps, ¬ step.inBrowser) (.playbook "playbooks can contain browser tools only")
  raiseIf (¬ definition.allowedDomains.Nodup ∨
      ∃ domain ∈ definition.allowedDomains, ¬ isDomainPattern characters domain)
    (.playbook "browser playbook domains must be unique valid domain patterns")
  validateAddresses characters definition.allowedDomains (addresses definition)
  raiseIf ((definition.withEffect .createCredential).length ≠ 1)
    (.playbook "browser playbook requires one secure credential creation")
  raiseIf (∃ step ∈ definition.afterCreation, step.stage = .create)
    (.playbook "secure credential creation must finish the create stage")
  raiseIf ((definition.withEffect .revokeCredential).length ≠ 1)
    (.playbook "browser playbook requires one credential revocation")

/-- `digest(definition)`. -/
def definitionDigest (hashing : Hashing) (definition : PlaybookDraft) : Digest :=
  hashing.digest (playbookPayload definition.toDraftFields)

/-- `_editable`. -/
def editablePlaybook (playbook : Playbook) (expectedRevision : Int) : Except Error Unit := do
  raiseIf (playbook.archivedAt ≠ none) (.playbook "archived playbooks cannot be changed")
  raiseIf ((playbook.revision : Int) ≠ expectedRevision)
    (.playbook s!"playbook expected revision {expectedRevision}, found {playbook.revision}")

/-- What `rename` writes, from the playbook that it has read. -/
def renamed (current : Playbook) (expectedRevision : Int) (name : String) (now : AwareDatetime) :
    Except Error Playbook := do
  editablePlaybook current expectedRevision
  return { current with name, updatedAt := now, revision := expectedRevision.toNat + 1 }

def attachedTo (playbookId : Identifier) (connections : List Connection) : List Connection :=
  connections.filter fun connection => connection.archivedAt = none ∧ connection.playbookId = some playbookId

/-- What `archive` writes, once the inventory has detached the connections that the playbook is attached to. -/
def archived (current : Playbook) (expectedRevision : Int) (connections : List Connection) (cascade : Bool)
    (now : AwareDatetime) : Except Error Playbook := do
  editablePlaybook current expectedRevision
  raiseIf (attachedTo current.id connections ≠ [] ∧ cascade = false)
    (.playbook "playbook is still attached to an active connection")
  return { current with archivedAt := some now, updatedAt := now, revision := expectedRevision.toNat + 1 }

def createVersion (hashing : Hashing) (store : PlaybookStore) (organisationId playbookId versionId : Identifier)
    (definition : PlaybookDraft) (actorId : Identifier) (sourceIds : List Identifier) (now : AwareDatetime) :
    Except Error ((Playbook × PlaybookVersion) × PlaybookStore) := do
  validateDefinition characters definition
  store.addVersion playbookId versionId organisationId definition (definitionDigest hashing definition) actorId now
    sourceIds

/-- What `publish` checks before its transaction. -/
def publishable (hashing : Hashing) (store : PlaybookStore) (organisationId playbookId versionId : Identifier) :
    Except Error Unit := do
  let version ← store.getVersion organisationId playbookId versionId
  validateDefinition characters version.definition
  raiseIf (definitionDigest hashing version.definition ≠ version.digest)
    (.playbook "playbook definition digest does not match its immutable version")

end Uumi.Playbooks

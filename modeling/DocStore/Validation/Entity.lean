import DocStore.Validation.Field
import DocStore.Validation.Transition
import DocStore.Model.Entity
/-
  DocStore.Validation.Entity — the validators of each entity kind.

  - Identity (6 rules): id, name, public key length (1 to 16384), the key line's
    first word is an algorithm of the key type, a present private key reference is
    not blank, timestamps.
  - Server profile (7 rules): id, name, host, port 1..65535, user name, identity id,
    timestamps.
  - Project (5 rules): id, name, server profile id, remote path, state coherence.
  - Message (4 rules): id, content not blank and at most 100000 characters, project id
    not blank.
-/

namespace DocStore

/-- The first blank-separated word of a text (empty if none). -/
def firstWord (s : String) : String :=
  String.ofList ((Text.dropBlanks s.toList).takeWhile fun c => !Text.isBlank c)

/-- The key line names an algorithm of the identity's key type. -/
def publicKeyMatchesType (i : Identity) : Verdict :=
  let prefixes := i.keyType.publicKeyPrefixes
  Verdict.check (prefixes.contains (firstWord i.publicKey))
    (Issue.onField "publicKey"
      ("public key must be an OpenSSH line starting with one of: " ++ ", ".intercalate prefixes))

def identityValidator : Validator Identity :=
  ({} : Validator Identity)
    |>.rule (fun i => FieldRule.entityId "id" i.id)
    |>.rule (fun i => FieldRule.displayName "name" i.name)
    |>.rule (fun i => FieldRule.length "publicKey" i.publicKey 1 FieldRule.maxPublicKeyLength)
    |>.rule publicKeyMatchesType
    |>.ruleIf (fun i => i.privateKeyRef.isSome) (fun i => FieldRule.notBlank "privateKeyRef" (i.privateKeyRef.getD ""))
    |>.rule identityTimestamps

def profileValidator : Validator ServerProfile :=
  ({} : Validator ServerProfile)
    |>.rule (fun p => FieldRule.entityId "id" p.id)
    |>.rule (fun p => FieldRule.displayName "name" p.name)
    |>.rule (fun p => FieldRule.hostname "host" p.host)
    |>.rule (fun p => FieldRule.intRange "port" p.port 1 65535)
    |>.rule (fun p => FieldRule.username "username" p.username)
    |>.rule (fun p => FieldRule.entityId "sshIdentityId" p.sshIdentityId)
    |>.rule profileTimestamps

def projectValidator : Validator Project :=
  ({} : Validator Project)
    |>.rule (fun p => FieldRule.entityId "id" p.id)
    |>.rule (fun p => FieldRule.displayName "name" p.name)
    |>.rule (fun p => FieldRule.entityId "serverProfileId" p.serverProfileId)
    |>.rule (fun p => FieldRule.remotePath "remotePath" p.remotePath)
    |>.rule projectCoherence

def messageValidator : Validator Message :=
  ({} : Validator Message)
    |>.rule (fun m => FieldRule.entityId "id" m.id)
    |>.rule (fun m => FieldRule.notBlank "content" m.content)
    |>.rule (fun m => FieldRule.length "content" m.content 0 FieldRule.maxMessageLength)
    |>.rule (fun m => FieldRule.notBlank "projectId" m.projectId)

def Identity.validate (i : Identity) : Verdict := identityValidator.validate i
def ServerProfile.validate (p : ServerProfile) : Verdict := profileValidator.validate p
def Project.validate (p : Project) : Verdict := projectValidator.validate p
def Message.validate (m : Message) : Verdict := messageValidator.validate m

end DocStore

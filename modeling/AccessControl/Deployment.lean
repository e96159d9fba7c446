import AccessControl.Account.Service
import AccessControl.Account.Store
import AccessControl.Identity.Local
import AccessControl.Password.Hashing

/-!
# The account service in process

A deployment puts the account service over the identity service in process and the repository in
memory. The policy agent behind the identity service, the hasher, the mailer and the source of ids
are given: the agent has a state of its own, the other three share one.

`World` is the whole state; a backing call changes only the part it belongs to.
-/

namespace AccessControl

/-- The state of a deployment. -/
structure World (α ω : Type) where
  identity : IdentityState α
  accounts : AccountStore := {}
  outside : ω

/-- Hashing of passwords. -/
structure Hasher (ω : Type) where
  hash : String → Action ω HashError String
  /-- Succeeds when the password is the one that was hashed. -/
  compare : (password hash : String) → Action ω HashError Unit

/-- Delivery of mails. -/
structure Mailer (ω : Type) where
  sendReset : (recipients : List String) → (host token : String) → Action ω String Unit

/-- A source of ids for new records. -/
structure IdSource (ω : Type) where
  fresh : Action ω String String

/-- The given parts of a deployment. -/
structure Deployment (α ω : Type) where
  identity : LocalIdentity α
  hasher : Hasher ω
  mailer : Mailer ω
  ids : IdSource ω
  /-- Which passwords are good enough to be set. -/
  accepts : String → Bool

namespace World

variable {α ω ε β : Type}

/-- Runs an action of the identity service. -/
def onIdentity (action : Action (IdentityState α) ε β) : Action (World α ω) ε β :=
  Action.zoom World.identity (fun w s => { w with identity := s }) action

/-- Runs an action of the repository. -/
def onAccounts (action : Action AccountStore ε β) : Action (World α ω) ε β :=
  Action.zoom World.accounts (fun w s => { w with accounts := s }) action

/-- Runs an action of the other given parts. -/
def onOutside (action : Action ω ε β) : Action (World α ω) ε β :=
  Action.zoom World.outside (fun w s => { w with outside := s }) action

end World

namespace Deployment

variable {α ω : Type}

open World

/-- What stands behind the account service in this deployment. -/
def backing (d : Deployment α ω) : Backing (World α ω)
  | .issue id email kind => onIdentity (d.identity.issue id email kind)
  | .identify token => onIdentity (LocalIdentity.identify token)
  | .members token group offset limit memberType =>
    onIdentity (LocalIdentity.members token group offset limit memberType)
  | .authorize tuple => onIdentity (d.identity.authorize tuple)
  | .addPolicy tuple => onIdentity (d.identity.addPolicy tuple)
  | .save user => onAccounts (AccountStore.save user)
  | .updateUser user => onAccounts (AccountStore.updateUser user)
  | .byEmail email => onAccounts (AccountStore.byEmail email)
  | .byId id => onAccounts (AccountStore.byId id)
  | .list query => onAccounts (AccountStore.list query)
  | .updatePassword email hash => onAccounts (AccountStore.updatePassword email hash)
  | .hash password => onOutside (d.hasher.hash password)
  | .compare password hash => onOutside (d.hasher.compare password hash)
  | .sendReset recipients host token => onOutside (d.mailer.sendReset recipients host token)
  | .freshId => onOutside d.ids.fresh

/-- The account service of this deployment. -/
def service (d : Deployment α ω) : AccountService (World α ω) :=
  ⟨d.backing, d.accepts⟩

end Deployment

/-- A mailer without a relay: deliveries only show up in the log, and the token does not. -/
def logMailer (ω : Type) : Mailer ω where
  sendReset recipients host _ :=
    if recipients = [] then Action.fail "no recipients"
    else Action.emit (.mailPrepared recipients.length host)

/-- A mailer that takes every mail. -/
def silentMailer (ω : Type) : Mailer ω where
  sendReset _ _ _ := return ()

/-- A hasher of the given costs that draws its salts from a given source. -/
def saltedHasher {ω : Type} (costs : Costs) (salts : Action ω HashError Salt) : Hasher ω where
  hash password := do Action.ofExcept (costs.hash (← salts) password)
  compare password hash := Action.ofExcept (comparePassword costs.request password hash)

/-- A hasher for rehearsals: the hash is the password behind a marker. -/
def plainHasher (ω : Type) : Hasher ω where
  hash password := return "plain:" ++ password
  compare password hash :=
    if "plain:".toList.isPrefixOf hash.toList then
      if hash = "plain:" ++ password then return () else Action.fail .mismatch
    else
      Action.fail (.malformedHash "no plain prefix")

end AccessControl

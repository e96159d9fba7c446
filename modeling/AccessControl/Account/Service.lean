import AccessControl.Account.Script

/-!
# The account service

Every operation decides on a token and a request, and goes through the backing services step by
step; it stops at its first failing step. Tokens are resolved by the identity service, questions of
permission go to the policy agent behind it, and the repository is touched last.

Records that leave the service carry no password. A caller who logs in, or changes a password by
giving the old one, is not told whether the account is missing or the password is wrong.

An operation is a `ServiceCall` with its script; an `AccountService` plays the scripts against what
stands behind it.
-/

namespace AccessControl

/-! ## The steps of operations -/

namespace Script

/-- Resolves a token; every failure is one of missing credentials. -/
def identify (token : String) : Script Identity :=
  ask (.identify token) (.byIdentity .unauthorized)

/-- Looks a record up by its email; a failure is wrapped as one of the given kind. -/
def byEmail (kind : ErrorKind) (email : String) : Script User :=
  ask (.byEmail email) (.byAccount kind)

/-- Hashes a password. -/
def hash (password : String) : Script String :=
  ask (.hash password) (.byHash .malformedEntity)

/-- Issues a key for a record; a failure is wrapped as one of the given kind. -/
def issue (wrapped : ErrorKind) (user : User) (kind : KeyKind) : Script String :=
  ask (.issue user.id user.email kind) (.byIdentity wrapped)

/-- Turns a refusal and a no into the same failure; only a refusal leaves a cause. -/
def granted (answer : Script Bool) : Script Unit := do
  if ← answer then return () else fail (.bare .authorization)

/-- Asks whether a tuple holds; no answer counts as a no. -/
def authorize (tuple : RelationTuple) : Script Unit :=
  granted (ask (.authorize tuple) (.byIdentity .authorization))

/-- Grants a tuple. -/
def addPolicy (tuple : RelationTuple) : Script Unit :=
  granted (ask (.addPolicy tuple) (.byIdentity .authorization))

/-- Checks that a password is good enough to be set. -/
def checkPassword (accepts : String → Bool) (password : String) : Script Unit :=
  if accepts password then return () else fail (.bare .passwordFormat)

/-- Lets pass anyone while registration is open, and administrators always. -/
def checkRegistration (token : String) : Script Unit := do
  match ← (authorize RelationTuple.bootstrap).attempt with
  | .ok () => log .registrationOpen
  | .error _ =>
    if token = "" then
      fail (.bare .unauthorized)
    else do
      let caller ← identify token
      (authorize (RelationTuple.authority caller.id)).mapError (.byAccount .unauthorized)

/-- Grants a new user ownership, and reports when that fails. -/
def grantOwnership (id : String) : Script Unit := do
  match ← (addPolicy (RelationTuple.ownership id)).attempt with
  | .ok () => return ()
  | .error e => do
    log (.ownershipRefused id e.message)
    fail e

/-- Looks a record up by its email and checks the password against it. -/
def authenticate (email password : String) : Script User := do
  let stored ← byEmail .unauthorized email
  ask (.compare password stored.password) (.byHash .unauthorized)
  return stored

/-- The record with a given email, which must carry an email itself. -/
def existing (email : String) : Script User := do
  let user ← byEmail .userNotFound email
  if user.email = "" then fail (.bare .userNotFound) else return user

/-! ## The operations -/

/-- Makes an account of a record. Ownership is granted before the record is written. -/
def enrol (user : User) : Script String := do
  let id ← ask .freshId (.byNote .createUser)
  grantOwnership id
  let hash ← hash user.password
  let saved ← ask (.save { user with id := id, password := hash }) (fun e => e)
  log (.userRegistered saved)
  return saved

/-- Creates an account, and answers its id. -/
def register (accepts : String → Bool) (token : String) (user : User) : Script String := do
  checkRegistration token
  ofExcept user.validate
  checkPassword accepts user.password
  enrol user

/-- Exchanges an email and a password for a token. -/
def login (user : User) : Script String := do
  let stored ← authenticate user.email user.password
  issue .getToken stored .user

/-- The account with a given id. -/
def viewUser (token id : String) : Script User := do
  let _ ← identify token
  let stored ← ask (.byId id) (.byAccount .unauthorized)
  return { stored.redacted with id := id }

/-- The account of the caller. -/
def viewProfile (token : String) : Script User := do
  let caller ← identify token
  let stored ← byEmail .unauthorized caller.email
  return { stored.redacted with email := caller.email }

/-- A page of the accounts whose email holds a text and whose metadata holds some entries. -/
def listUsers (token : String) (offset limit : Nat) (email : String) (metadata : Metadata) :
    Script (Page User) := do
  let _ ← identify token
  let query : UserQuery :=
    { offset, limit, email := if email = "" then none else some email, metadata }
  let page : Page User ← ask (.list query) (fun e => e)
  return (page.withWindow offset limit).map User.redacted

/-- Replaces the metadata of the caller's account; nothing else of the given record counts. -/
def updateUser (token : String) (user : User) : Script Unit := do
  let caller ← identify token
  ask (.updateUser { email := caller.email, metadata := user.metadata }) (fun e => e)

/-- Mails a token for a password reset. -/
def sendPasswordReset (host email token : String) : Script Unit :=
  call (.sendReset [email] host token) fun
    | .ok () => return ()
    | .error reason => do
      log (.mailFailed reason)
      fail (.byNote .emailDelivery reason)

/-- Issues a recovery token for an account and mails it to the given address. -/
def generateResetToken (email host : String) : Script Unit := do
  if email = "" then
    fail (.bare .missingEmail)
  else
    let user ← existing email
    let token ← issue .recoveryToken user .recovery
    sendPasswordReset host email token

/-- Sets a new password for the caller. -/
def resetPassword (accepts : String → Bool) (token password : String) : Script Unit := do
  if token = "" then
    fail (.bare .missingResetToken)
  else
    let caller ← identify token
    let _ ← existing caller.email
    checkPassword accepts password
    let hash ← hash password
    ask (.updatePassword caller.email hash) (fun e => e)

/-- Sets a new password for the caller, who gives the old one again. -/
def changePassword (accepts : String → Bool) (token password old : String) : Script Unit := do
  let caller ← identify token
  checkPassword accepts password
  match ← (authenticate caller.email old).attempt with
  | .error _ => fail (.bare .unauthorized)
  | .ok _ => do
    let _ ← existing caller.email
    let hash ← hash password
    ask (.updatePassword caller.email hash) (fun e => e)

/-- The type of members that are users. -/
def userMembers : String := "users"

/-- A page of the users in a group. The window applies to the members; all members in it are then
looked up. -/
def listMembers (token group : String) (offset limit : Nat) (metadata : Metadata) :
    Script (Page User) := do
  let _ ← identify token
  let ids : List String ← ask (.members token group offset limit userMembers)
    (.byIdentity .authorization)
  if ids = [] then
    return Page.empty offset limit
  else
    let query : UserQuery := { offset := 0, limit := ids.length, ids := some ids, metadata }
    let page : Page User ← ask (.list query) (fun e => e)
    return (page.withWindow offset limit).map User.redacted

end Script

/-! ## The service -/

/-- A request to the account service. -/
inductive ServiceCall where
  | register (token : String) (user : User)
  | login (user : User)
  | viewUser (token id : String)
  | viewProfile (token : String)
  | listUsers (token : String) (offset limit : Nat) (email : String) (metadata : Metadata)
  | updateUser (token : String) (user : User)
  | generateResetToken (email host : String)
  | resetPassword (token password : String)
  | changePassword (token password old : String)
  | sendPasswordReset (host email token : String)
  | listMembers (token group : String) (offset limit : Nat) (metadata : Metadata)

namespace ServiceCall

/-- What a request answers. -/
@[reducible] def Answer : ServiceCall → Type
  | register .. => String
  | login _ => String
  | viewUser .. => User
  | viewProfile _ => User
  | listUsers .. => Page User
  | updateUser .. => Unit
  | generateResetToken .. => Unit
  | resetPassword .. => Unit
  | changePassword .. => Unit
  | sendPasswordReset .. => Unit
  | listMembers .. => Page User

/-- The script of a request, given which passwords are good enough to be set. -/
def script (accepts : String → Bool) : (request : ServiceCall) → Script request.Answer
  | register token user => Script.register accepts token user
  | login user => Script.login user
  | viewUser token id => Script.viewUser token id
  | viewProfile token => Script.viewProfile token
  | listUsers token offset limit email metadata =>
    Script.listUsers token offset limit email metadata
  | updateUser token user => Script.updateUser token user
  | generateResetToken email host => Script.generateResetToken email host
  | resetPassword token password => Script.resetPassword accepts token password
  | changePassword token password old => Script.changePassword accepts token password old
  | sendPasswordReset host email token => Script.sendPasswordReset host email token
  | listMembers token group offset limit metadata =>
    Script.listMembers token group offset limit metadata

end ServiceCall

/-- The account service: what stands behind it, and which passwords are good enough to be set. -/
structure AccountService (σ : Type) where
  backing : Backing σ
  accepts : String → Bool

namespace AccountService

variable {σ : Type}

/-- An operation of the service. -/
abbrev Act (σ α : Type) := Action σ AccountError α

/-- Serves a request. -/
def serve (service : AccountService σ) (request : ServiceCall) : Act σ request.Answer :=
  (request.script service.accepts).run service.backing

/-- Creates an account, and answers its id. -/
def register (service : AccountService σ) (token : String) (user : User) : Act σ String :=
  service.serve (.register token user)

/-- Exchanges an email and a password for a token. -/
def login (service : AccountService σ) (user : User) : Act σ String :=
  service.serve (.login user)

/-- The account with a given id. -/
def viewUser (service : AccountService σ) (token id : String) : Act σ User :=
  service.serve (.viewUser token id)

/-- The account of the caller. -/
def viewProfile (service : AccountService σ) (token : String) : Act σ User :=
  service.serve (.viewProfile token)

/-- A page of the accounts whose email holds a text and whose metadata holds some entries. -/
def listUsers (service : AccountService σ) (token : String) (offset limit : Nat) (email : String)
    (metadata : Metadata) : Act σ (Page User) :=
  service.serve (.listUsers token offset limit email metadata)

/-- Replaces the metadata of the caller's account. -/
def updateUser (service : AccountService σ) (token : String) (user : User) : Act σ Unit :=
  service.serve (.updateUser token user)

/-- Issues a recovery token for an account and mails it. -/
def generateResetToken (service : AccountService σ) (email host : String) : Act σ Unit :=
  service.serve (.generateResetToken email host)

/-- Sets a new password for the caller. -/
def resetPassword (service : AccountService σ) (token password : String) : Act σ Unit :=
  service.serve (.resetPassword token password)

/-- Sets a new password for the caller, who gives the old one again. -/
def changePassword (service : AccountService σ) (token password old : String) : Act σ Unit :=
  service.serve (.changePassword token password old)

/-- Mails a token for a password reset. -/
def sendPasswordReset (service : AccountService σ) (host email token : String) : Act σ Unit :=
  service.serve (.sendPasswordReset host email token)

/-- A page of the users in a group. -/
def listMembers (service : AccountService σ) (token group : String) (offset limit : Nat)
    (metadata : Metadata) : Act σ (Page User) :=
  service.serve (.listMembers token group offset limit metadata)

end AccountService

end AccessControl

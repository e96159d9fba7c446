import AccessControl.Proofs.Account.Courses

/-!
# What callers are shown

The records that the service hands out are the repository's without their passwords, under the id
or email that was asked for, and its pages are the repository's under the window that was asked for.
Nothing is assumed of the repository: it may answer with passwords, with another record or with
another window (`AccountService.views_answer_as_asked`).
-/

namespace AccessControl

variable {σ : Type}

/-- The records that an answer shows. -/
def ServiceCall.shown : (request : ServiceCall) → request.Answer → List User
  | viewUser .., user => [user]
  | viewProfile _, user => [user]
  | listUsers .., page => page.items
  | listMembers .., page => page.items
  | register .., _ => []
  | login _, _ => []
  | updateUser .., _ => []
  | generateResetToken .., _ => []
  | resetPassword .., _ => []
  | changePassword .., _ => []
  | sendPasswordReset .., _ => []

namespace AccountService

/-- A request succeeds exactly if its calls get it through. -/
theorem result_eq_ok_iff (service : AccountService σ) (request : ServiceCall) (s : σ)
    (x : request.Answer) : (service.serve request s).result = .ok x ↔
      Completes service.accepts request (service.exchanges request s) x := by
  have transcript := service.transcript_exchanges request s
  constructor
  · intro h
    exact Script.ends_of_transcript (h ▸ transcript)
  · intro completes
    rw [← List.append_nil (service.exchanges request s)] at transcript
    exact ((Script.transcript_of_completes completes).eq_of_append transcript).2

end AccountService

variable {accepts : String → Bool} {request : ServiceCall} {calls : List Exchange}

/-- No course of a request ends with a password. -/
theorem Completes.password_shown {x : request.Answer}
    (completes : Completes accepts request calls x) :
    ∀ user ∈ request.shown x, user.password = "" := by
  cases completes with
  | viewed | profiled =>
    intro user huser
    rw [List.mem_singleton.mp huser]
    rfl
  | listed | membersListed =>
    intro user huser
    obtain ⟨stored, _, rfl⟩ := List.mem_map.mp huser
    rfl
  | _ => exact fun _ huser => nomatch huser

/-- A view of a user identifies the caller and looks the id up, and shows no password. -/
theorem completes_viewUser {token id : String} {user : User} :
    Completes accepts (.viewUser token id) calls user ↔
      ∃ caller stored, calls = [⟨.identify token, .ok caller⟩, ⟨.byId id, .ok stored⟩] ∧
        user = ⟨id, stored.email, "", stored.metadata⟩ := by
  constructor
  · rintro ⟨⟩
    exact ⟨_, _, rfl, rfl⟩
  · rintro ⟨caller, stored, rfl, rfl⟩
    exact .viewed

/-- A view of the own profile looks the address of the caller up, and shows no password. -/
theorem completes_viewProfile {token : String} {user : User} :
    Completes accepts (.viewProfile token) calls user ↔
      ∃ caller stored,
        calls = [⟨.identify token, .ok caller⟩, ⟨.byEmail caller.email, .ok stored⟩] ∧
        user = ⟨stored.id, caller.email, "", stored.metadata⟩ := by
  constructor
  · rintro ⟨⟩
    exact ⟨_, _, rfl, rfl⟩
  · rintro ⟨caller, stored, rfl, rfl⟩
    exact .profiled

/-- A listing of users identifies the caller and asks for the page, and shows no passwords. -/
theorem completes_listUsers {token email : String} {offset limit : Nat} {metadata : Metadata}
    {page : Page User} :
    Completes accepts (.listUsers token offset limit email metadata) calls page ↔
      ∃ (caller : Identity) (stored : Page User), calls = [⟨.identify token, .ok caller⟩,
          ⟨.list { offset, limit, email := if email = "" then none else some email, metadata },
            .ok stored⟩] ∧
        page = ⟨⟨stored.info.total, offset, limit⟩, stored.items.map User.redacted⟩ := by
  constructor
  · rintro ⟨⟩
    exact ⟨_, _, rfl, rfl⟩
  · rintro ⟨caller, stored, rfl, rfl⟩
    exact .listed

/-- A listing of members asks for their ids, and then for the records of these, if there are any. -/
theorem completes_listMembers {token group : String} {offset limit : Nat} {metadata : Metadata}
    {page : Page User} :
    Completes accepts (.listMembers token group offset limit metadata) calls page ↔
      ∃ (caller : Identity) (ids : List String),
        ids = [] ∧ calls = [⟨.identify token, .ok caller⟩,
            ⟨.members token group offset limit Script.userMembers, .ok ids⟩] ∧
          page = ⟨⟨0, offset, limit⟩, []⟩ ∨
        ids ≠ [] ∧ ∃ stored : Page User, calls = [⟨.identify token, .ok caller⟩,
            ⟨.members token group offset limit Script.userMembers, .ok ids⟩,
            ⟨.list { offset := 0, limit := ids.length, ids := some ids, metadata }, .ok stored⟩] ∧
          page = ⟨⟨stored.info.total, offset, limit⟩, stored.items.map User.redacted⟩ := by
  constructor
  · rintro (_ | _)
    · exact ⟨_, [], Or.inl ⟨rfl, rfl, rfl⟩⟩
    · exact ⟨_, _, Or.inr ⟨‹_›, _, rfl, rfl⟩⟩
  · rintro ⟨caller, ids, ⟨rfl, rfl, rfl⟩ | ⟨inhabited, stored, rfl, rfl⟩⟩
    · exact .memberless
    · exact .membersListed inhabited

/-- Whatever stands behind the service and however it answers:
* no answer shows a password;
* an account is shown under the id that was asked for, and a profile under the email of the caller,
  and all else in them but the password is the repository's;
* a listing shows the window that was asked for, and the repository's total and records;
* so does a listing of members, which does not come to the repository if there are no members in the
  window: then it shows no records, and none in total. -/
theorem AccountService.views_answer_as_asked (service : AccountService σ) (s : σ) :
    (∀ request x, (service.serve request s).result = .ok x →
      ∀ user ∈ request.shown x, user.password = "") ∧
    (∀ token id user, (service.viewUser token id s).result = .ok user ↔
      ∃ caller stored, service.exchanges (.viewUser token id) s =
          [⟨.identify token, .ok caller⟩, ⟨.byId id, .ok stored⟩] ∧
        user = ⟨id, stored.email, "", stored.metadata⟩) ∧
    (∀ token user, (service.viewProfile token s).result = .ok user ↔
      ∃ caller stored, service.exchanges (.viewProfile token) s =
          [⟨.identify token, .ok caller⟩, ⟨.byEmail caller.email, .ok stored⟩] ∧
        user = ⟨stored.id, caller.email, "", stored.metadata⟩) ∧
    (∀ token offset limit email metadata page,
      (service.listUsers token offset limit email metadata s).result = .ok page ↔
        ∃ (caller : Identity) (stored : Page User),
          service.exchanges (.listUsers token offset limit email metadata) s =
            [⟨.identify token, .ok caller⟩,
              ⟨.list { offset, limit, email := if email = "" then none else some email, metadata },
                .ok stored⟩] ∧
          page = ⟨⟨stored.info.total, offset, limit⟩, stored.items.map User.redacted⟩) ∧
    ∀ token group offset limit metadata page,
      (service.listMembers token group offset limit metadata s).result = .ok page ↔
        ∃ (caller : Identity) (ids : List String),
          ids = [] ∧ service.exchanges (.listMembers token group offset limit metadata) s =
              [⟨.identify token, .ok caller⟩,
                ⟨.members token group offset limit Script.userMembers, .ok ids⟩] ∧
            page = ⟨⟨0, offset, limit⟩, []⟩ ∨
          ids ≠ [] ∧ ∃ stored : Page User,
            service.exchanges (.listMembers token group offset limit metadata) s =
              [⟨.identify token, .ok caller⟩,
                ⟨.members token group offset limit Script.userMembers, .ok ids⟩,
                ⟨.list { offset := 0, limit := ids.length, ids := some ids, metadata },
                  .ok stored⟩] ∧
            page = ⟨⟨stored.info.total, offset, limit⟩, stored.items.map User.redacted⟩ := by
  refine ⟨fun request x h => ?_, fun token id user => ?_, fun token user => ?_,
    fun token offset limit email metadata page => ?_,
    fun token group offset limit metadata page => ?_⟩
  · exact ((service.result_eq_ok_iff request s x).mp h).password_shown
  · exact (service.result_eq_ok_iff _ s user).trans completes_viewUser
  · exact (service.result_eq_ok_iff _ s user).trans completes_viewProfile
  · exact (service.result_eq_ok_iff _ s page).trans completes_listUsers
  · exact (service.result_eq_ok_iff _ s page).trans completes_listMembers

end AccessControl

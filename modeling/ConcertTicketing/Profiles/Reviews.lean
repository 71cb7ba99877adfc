import ConcertTicketing.Profiles.Owners

/-!
# Reviewed names

A new name and the status `PENDING` are written together, so a review that
comes between the read and the write of a request is about the old name, and
its verdict does not outlive it.
-/

namespace ConcertTicketing.Profiles

open Events (Member OrganizerId)

/-- The verdict of the last review of the profile, and the name that it was
about. -/
def lastReview (profileId : OrganizerId) (history : ProfileHistory) :
    Option (OrganizerStatus × String) :=
  history.findSome? fun entry =>
    match entry.2 with
    | .external (.reviewed reviewed status) =>
        if reviewed = profileId then
          (entry.1.stores.organizerProfiles.find? profileId).map
            fun profile => (status, profile.orgName)
        else none
    | _ => none

/-- A name that is not under review has been reviewed. -/
def NamesReviewed (history : ProfileHistory) (db : Db) : Prop :=
  ∀ profileId profile, db.organizerProfiles.find? profileId = some profile →
    profile.status = .pending ∨
      lastReview profileId history = some (profile.status, profile.orgName)

section Names

variable {db after : Db} {userId : UserId} {command : Command}
  {profileId : OrganizerId} {profile : OrganizerProfile}

/-- A write puts the profile under review, or leaves its name and status. -/
theorem name_written (allowed : Allows userId command db)
    (writes : Written db command after)
    (found : after.organizerProfiles.find? profileId = some profile) :
    profile.status = .pending ∨
      ∃ was, db.organizerProfiles.find? profileId = some was ∧
        was.status = profile.status ∧ was.orgName = profile.orgName := by
  cases writes with
  | profile updated data accepted =>
      rw [Db.withProfile, Table.find?_modify] at found
      obtain ⟨was, foundWas, rfl⟩ := Option.map_eq_some_iff.mp found
      by_cases same : profileId = updated
      · rw [if_pos same]
        rcases allowed.2 with reset | ⟨noStatus, noName⟩
        · left
          simp only [OrganizerProfileUpdateInput.writeOver, reset,
            Member.writeOver]
        · right
          refine ⟨was, foundWas, ?_, ?_⟩
          · simp only [OrganizerProfileUpdateInput.writeOver, noStatus,
              Member.writeOver]
          · simp only [OrganizerProfileUpdateInput.writeOver, noName,
              Member.writeOver]
      · rw [if_neg same]
        exact Or.inr ⟨was, foundWas, rfl, rfl⟩
  | _ => exact Or.inr ⟨profile, found, rfl, rfl⟩

theorem NamesReviewed.outside {history : ProfileHistory}
    {state : ProfileState} (reviewed : NamesReviewed history state.stores)
    (happens : Outside) :
    NamesReviewed ((state, .external happens) :: history)
      (happens.apply state.stores) := by
  intro profileId profile found
  cases happens with
  | registered user => exact reviewed profileId profile found
  | account userId email status roles =>
      exact reviewed profileId profile found
  | applied userId orgName =>
      rw [Outside.apply] at found
      split at found
      · exact reviewed profileId profile found
      · rcases Table.mem_insert.mp (Table.find?_eq_some.mp found) with
          old | ⟨_, rfl⟩
        · exact reviewed profileId profile (Table.find?_eq_some.mpr old)
        · exact Or.inl rfl
  | reviewed changed status =>
      rw [Outside.apply, Db.withProfile, Table.find?_modify] at found
      obtain ⟨was, foundWas, rfl⟩ := Option.map_eq_some_iff.mp found
      by_cases same : profileId = changed
      · right
        subst same
        simp [lastReview, foundWas]
      · rw [if_neg same]
        have elsewhere : changed ≠ profileId := Ne.symm same
        simpa [lastReview, elsewhere] using reviewed profileId was foundWas

theorem NamesReviewed.step {history : ProfileHistory}
    {state next : ProfileState} {action : ProfileAction}
    (reviewed : NamesReviewed history state.stores)
    (sound : EachSafe perform ProfilesStay
      (fun input => Allows input.userId) (fun _ => True) state)
    (stepped : profileServer.step state action = some next) :
    NamesReviewed ((state, action) :: history) next.stores := by
  have older : (∀ happens, action ≠ .external happens) → ∀ profileId,
      lastReview profileId ((state, action) :: history) =
        lastReview profileId history := by
    intro inside profileId
    cases action with
    | external happens => exact absurd rfl (inside happens)
    | request input => rfl
    | await index outcome => rfl
  rcases stores_cases stepped with
    ⟨happens, rfl, same⟩ | ⟨input, command, applies, same⟩ | ⟨inside, _, same⟩
  · rw [same]
    exact reviewed.outside happens
  · have allowed := sound.allowed profilesStay_refl applies
    have inside : ∀ happens, action ≠ .external happens := by
      obtain ⟨index, outcome, _, _, rfl, _⟩ := appliedFor_eq_some.mp applies
      exact nofun
    rw [same]
    intro profileId profile found
    rw [older inside]
    rcases name_written allowed (written state.stores command) found with
      pending | ⟨was, foundWas, sameStatus, sameName⟩
    · exact Or.inl pending
    · rw [← sameStatus, ← sameName]
      exact reviewed profileId was foundWas
  · rw [same]
    intro profileId profile found
    rw [older inside]
    exact reviewed profileId profile found

end Names

/-- However the requests overlap, a name that is not under review is the one
that the last review was about, and its status is the verdict. -/
theorem names_reviewed {history : ProfileHistory} {state : ProfileState}
    (run : Trace profileServer.step ⟨.empty, []⟩ history state)
    {profileId : OrganizerId} {profile : OrganizerProfile}
    (found : state.stores.organizerProfiles.find? profileId = some profile)
    (decided : profile.status ≠ .pending) :
    lastReview profileId history =
      some (profile.status, profile.orgName) := by
  have reviewed : NamesReviewed history state.stores := by
    refine Trace.invariantHistory
      (fun history (state : ProfileState) =>
        NamesReviewed history state.stores) ?_ ?_ run
    · intro profileId profile found
      cases found
    · intro earlier before action after runBefore holds stepped
      exact holds.step (profiles_of_run runBefore) stepped
  exact (reviewed profileId profile found).resolve_left decided

/-- An organizer asks for a new name; between the read and the write the old
name is approved, and after the write the new one. -/
def renamed : List ProfileAction :=
  [.external (.applied 7 "Trống Đồng"),
    .request ⟨7, .updateOrganizer { orgName := .value "Sao Mai" }⟩,
    .await 0 .resolves, .external (.reviewed 0 .approved),
    .await 0 .resolves, .external (.reviewed 0 .approved),
    .request ⟨7, .updateOrganizer { website := .value "saomai.vn" }⟩,
    .await 1 .resolves, .await 1 .resolves]

private theorem renamed_enabled :
    (replay profileServer.step [] ⟨.empty, []⟩ renamed).isSome = true := by
  decide +kernel

def afterRenamed : ProfileHistory × ProfileState :=
  (replay profileServer.step [] ⟨.empty, []⟩ renamed).get renamed_enabled

private theorem renamed_run :
    Trace profileServer.step ⟨.empty, []⟩ afterRenamed.1 afterRenamed.2 :=
  Trace.of_replay_get renamed renamed_enabled

private theorem renamed_isProfile :
    (afterRenamed.2.stores.organizerProfiles.find? 0).isSome = true := by
  decide +kernel

theorem names_reviewed_renamed :
    ((afterRenamed.2.stores.organizerProfiles.find? 0).get
        renamed_isProfile).orgName = "Sao Mai" ∧
      lastReview 0 afterRenamed.1 =
        some
          (((afterRenamed.2.stores.organizerProfiles.find? 0).get
            renamed_isProfile).status,
          ((afterRenamed.2.stores.organizerProfiles.find? 0).get
            renamed_isProfile).orgName) :=
  ⟨by decide +kernel,
    names_reviewed renamed_run (Option.some_get renamed_isProfile).symm
      (by decide +kernel)⟩

end ConcertTicketing.Profiles

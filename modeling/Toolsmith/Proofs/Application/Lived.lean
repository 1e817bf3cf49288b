import Toolsmith.Proofs.Application.History
/-!
# Sessions of applications that have been used

Every application begins with the built-in flags and the flag of its completion command.  Whatever
is done with it afterwards, these stay first among its flags, and no two flags clash
(`Lived.equipped`): registrations that go through keep both, and nothing else touches what has been
registered.
-/

namespace Toolsmith

theorem Application.equipped_register {app app' : Application} {what : Registration}
    (h : app.flags.Equipped) (registered : app.register what = .ok app') :
    app'.flags.Equipped := by
  cases what with
  | flag flag =>
    obtain ⟨registry, accepted, rfl⟩ := map_eq_ok_iff.mp registered
    have apart := h.apart.register accepted
    obtain ⟨d, -, -, rfl⟩ := Registry.register_eq_ok_iff.mp accepted
    exact ⟨h.first.trans (List.prefix_append _ _), apart⟩
  | group name longs =>
    cases registered
    exact ⟨h.first, h.apart⟩
  | command command =>
    obtain ⟨entered, -, rfl⟩ := map_eq_ok_iff.mp registered
    exact h

namespace Session

/-- A session of an application that was new at the beginning and to which anything has happened
since. -/
def Lived (s : Session) : Prop :=
  ∃ name version description completions colour world replies steps,
    s = (Session.mk (.fresh name version description completions colour) world replies).after steps

theorem equipped_of_lasting_eq {s t : Session} (same : t.app.lasting = s.app.lasting)
    (h : s.app.flags.Equipped) : t.app.flags.Equipped := by
  have definitions := Application.definitions_of_lasting_eq same
  obtain ⟨first, apart⟩ := h
  unfold Registry.Apart at apart
  rw [← definitions] at first apart
  exact ⟨first, apart⟩

theorem equipped_step {s : Session} (h : s.app.flags.Equipped) (next : Step) :
    (s.step next).app.flags.Equipped := by
  cases next with
  | register what =>
    dsimp only [step]
    cases registered : s.app.register what with
    | ok app => exact Application.equipped_register h registered
    | error fault => exact h
  | parse command tokens =>
    refine equipped_of_lasting_eq ?_ h
    exact congrArg (fun flags => { s.app.lasting with flags })
      (unread_parse s.app.flags s.world.files command tokens)
  | dispatch host words => exact equipped_of_lasting_eq (lasting_dispatch host words s) h
  | run host words => exact equipped_of_lasting_eq (lasting_run host words s) h
  | elsewhere files => exact h

theorem equipped_after {s : Session} (h : s.app.flags.Equipped) (steps : List Step) :
    (s.after steps).app.flags.Equipped := by
  induction steps generalizing s with
  | nil => exact h
  | cons next steps ih => exact ih (equipped_step h next)

theorem Lived.equipped {s : Session} (lived : s.Lived) : s.app.flags.Equipped := by
  obtain ⟨_, _, _, _, _, _, _, steps, rfl⟩ := lived
  exact equipped_after Registry.equipped_withShell steps

end Session

end Toolsmith

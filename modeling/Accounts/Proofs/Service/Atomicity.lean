import Accounts.Proofs.Service.Login

/-!
# Writes that fail

A registration, a change or a deletion that ends with an error has left the table as it was.  After
its statement a change only takes the copy away, which never fails; a registration still has to issue
a token.  So there is one way to end with an error and a row more, and no fault leads to it: the secret
or the lifetime of the setup gives no token.

    answer = .error e  ->  same table,  or  a registration,  Token.issue … = .error fault,  one row more
-/

namespace Accounts

open Accounts.Action
open Identity (issueError)

variable {setup : Setup} {w : World} {m : Move}

/-- A step that is a write of the service. -/
def Step.Writes : Step → Prop
  | .register _ | .update _ _ | .delete _ => True
  | _ => False

/-- **Failed writes change nothing.**  A write that ends with an error changes nothing, in any world
and whatever faults it meets, but for a registration that has no token to give. -/
theorem failed_write_changes_nothing (setup : Setup) (m : Move) (hwrites : m.step.Writes) (w : World)
    {e : Error} (herror : (m.record setup w).answer = .error e) :
    (m.record setup w).after.table = w.table ∨
    ∃ r row fault, m.step = .register r ∧
      Token.issue w.now setup.identity.secret setup.identity.tokenMinutes row.profile.id
        row.profile.email = .error fault ∧
      e = issueError "identity.register" fault ∧
      (m.record setup w).after.table = w.table ++ [row] := by
  obtain ⟨step, faults⟩ := m
  rw [Move.record_answer] at herror
  rw [Move.record_table]
  cases step with
  | register r =>
    rw [Step.run_register] at herror ⊢
    dsimp only at herror ⊢
    rcases Identity.register_cases setup.identity r (w.facing faults) with ⟨-, hsame⟩ |
      ⟨prepared, hash, id, email, time, -, -, -, hanswer, hadded⟩
    · exact .inl hsame
    · rw [hanswer] at herror
      rcases hsession : Identity.sessionFor setup.identity "identity.register" w.now
          ((Store.Draft.ofRegistration prepared hash).row id email time) with e' | session
      · rw [show (w.facing faults).now = w.now from rfl, hsession] at herror
        obtain ⟨fault, hissue, rfl⟩ := Identity.error_of_sessionFor hsession
        exact .inr ⟨r, _, fault, rfl, hissue, (Except.error.inj herror).symm, hadded⟩
      · rw [show (w.facing faults).now = w.now from rfl, hsession] at herror
        cases herror
  | update id d =>
    rw [Step.run_update] at herror ⊢
    dsimp only at herror ⊢
    rcases Identity.update_cases (w.facing faults) id d with ⟨-, hsame⟩ |
      ⟨prepared, row, time, -, -, -, hanswer, -⟩
    · exact .inl hsame
    · rw [hanswer] at herror
      cases herror
  | delete id =>
    rw [Step.run_delete] at herror ⊢
    dsimp only at herror ⊢
    rcases Identity.delete_cases (w.facing faults) id with ⟨-, hsame⟩ | ⟨row, -, hanswer, -⟩
    · exact .inl hsame
    · rw [hanswer] at herror
      cases herror
  | _ => exact hwrites.elim

/-- A deletion that runs out of time leaves the one account of a table alone. -/
theorem failed_write_changes_nothing_timedOut :
    Step.Writes (.delete (World.insertionId 1)) ∧
    (Move.record .sample ⟨.delete (World.insertionId 1), { sql := [some .timedOut] }⟩
      (sampleWorld .sample)).answer = .error (.store .timedOut) ∧
    (Move.record .sample ⟨.delete (World.insertionId 1), { sql := [some .timedOut] }⟩
      (sampleWorld .sample)).after.table = (sampleWorld .sample).table := by
  have hanswer : (Move.record .sample
      ⟨.delete (World.insertionId 1), { sql := [some .timedOut] }⟩ (sampleWorld .sample)).answer =
        .error (.store .timedOut) := rfl
  refine ⟨trivial, hanswer, ?_⟩
  rcases failed_write_changes_nothing .sample
      ⟨.delete (World.insertionId 1), { sql := [some .timedOut] }⟩ trivial (sampleWorld .sample)
      hanswer with hsame |
    ⟨r, row, fault, hregister, -⟩
  · exact hsame
  · cases hregister

/-! ## A registration without a token -/

/-- The public key of a shell, which no token is signed with. -/
def shellKey : String := "ssh-rsa AAAAB3NzaC1yc2E"

/-- The same setup with another secret. -/
def Setup.withSecret (setup : Setup) (secret : String) : Setup :=
  { setup with site :=
    { setup.site with identity := { setup.site.identity with secret := secret } } }

/-- The settings accept a secret that signs no token.  With it a registration fails, and its account is
there all the same. -/
theorem registration_kept_without_token :
    Settings.secret shellKey = .ok shellKey ∧
    (Move.record (Setup.sample.withSecret shellKey) ⟨.register sampleRegistration, {}⟩
      (World.started (Setup.sample.withSecret shellKey) 0 sampleSalt {})).answer =
        .error (.failure { cause := .internal, operation := some "identity.register" }) ∧
    (World.started (Setup.sample.withSecret shellKey) 0 sampleSalt {}).table = [] ∧
    ∃ row, (Move.record (Setup.sample.withSecret shellKey) ⟨.register sampleRegistration, {}⟩
      (World.started (Setup.sample.withSecret shellKey) 0 sampleSalt {})).after.table = [row] := by
  have hsecret : Settings.secret shellKey = .ok shellKey := by decide +kernel
  have hkey : Token.keyFault? shellKey = some .asymmetric := by decide +kernel
  have hempty := World.started_empty (Setup.sample.withSecret shellKey) 0 sampleSalt {}
  obtain ⟨row, -, hrow⟩ := sampleWorld_table (Setup.sample.withSecret shellKey)
  generalize hw : World.started (Setup.sample.withSecret shellKey) 0 sampleSalt {} = w at hempty
  have hafter : (Move.record (Setup.sample.withSecret shellKey) ⟨.register sampleRegistration, {}⟩
      w).after.table = [row] := by
    rw [← hw]
    exact hrow
  refine ⟨hsecret, ?_, hempty.table, row, hafter⟩
  rw [Move.record_table, Step.run_register] at hafter
  rw [Move.record_answer, Step.run_register]
  rcases Identity.register_cases (Setup.sample.withSecret shellKey).identity sampleRegistration
      (w.facing {}) with ⟨-, hsame⟩ | ⟨prepared, hash, id, email, time, -, -, -, hanswer, -⟩
  · rw [show (w.facing {}).table = [] from hempty.table] at hsame
    rw [hsame] at hafter
    cases hafter
  · rw [hanswer, show (w.facing {}).now = 0 from hempty.now]
    unfold Identity.sessionFor Token.issue
    rw [show (Setup.sample.withSecret shellKey).identity.secret = shellKey from rfl,
      show (Setup.sample.withSecret shellKey).identity.tokenMinutes = 30 from rfl,
      show Token.expiry 0 30 = .ok 1800 from rfl, hkey]
    rfl

end Accounts

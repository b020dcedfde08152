import Accounts.Proofs.Service.History
import Accounts.Proofs.World.Pool
import Mathlib.Data.List.Perm.Subperm

/-!
# Registrations under one email at the same time

Registrations look for their email and insert their row in two steps, and others come between.  The
index on the emails decides: whoever inserts first wins, and all others are refused, at their look-up
or at their insertion, with the same error.

    tries   calls whose insertion was tried, each once
    won     the rows that were inserted, at most one
-/

namespace Accounts

open Accounts.Request (Within)

variable {start : World} {rs : List Registration} {email : String} {s s' : Scene} {i : Nat}

/-! ## Insertions of a history -/

/-- An exchange that tries an insertion. -/
def Exchange.isInsertion : Exchange → Bool
  | ⟨.sql s, _⟩ => World.isInsertion s
  | _ => false

/-- The calls whose insertions were tried. -/
def tries (history : List (Nat × Exchange)) : List Nat :=
  (history.filter fun x => x.2.isInsertion).map (·.1)

/-- The rows that were inserted, each with its call. -/
def won (history : List (Nat × Exchange)) : List (Nat × Store.Row) :=
  noted Exchange.inserted? history

theorem tries_append (history more : List (Nat × Exchange)) :
    tries (history ++ more) = tries history ++ tries more := by
  unfold tries
  rw [List.filter_append, List.map_append]

theorem won_append (history more : List (Nat × Exchange)) :
    won (history ++ more) = won history ++ won more := noted_append _ _ _

theorem Exchange.isInsertion_of_inserted? {x : Exchange} {row : Store.Row}
    (h : x.inserted? = some row) : x.isInsertion = true := by
  unfold Exchange.inserted? at h
  split at h
  · rfl
  · cases h

/-- Whoever has inserted a row has tried it. -/
theorem mem_tries_of_mem_won {history : List (Nat × Exchange)} {p : Nat × Store.Row}
    (h : p ∈ won history) : p.1 ∈ tries history := by
  obtain ⟨x, hx, hrow, hcall⟩ := mem_noted.1 h
  exact List.mem_map.2 ⟨x, List.mem_filter.2 ⟨hx, Exchange.isInsertion_of_inserted? hrow⟩, hcall⟩

/-- An insertion that is tried is counted. -/
theorem World.answer_insertions (w : World) (r : Request) :
    (w.answer r).2.insertions =
      w.insertions + if Exchange.isInsertion ⟨r, (w.answer r).1⟩ then 1 else 0 := by
  cases r with
  | sql s => exact w.runStatement_insertions s
  | cache c => exact (runCommand_frame w c).2.2.1
  | clock | salt | log | connection => rfl

/-! ## The contest -/

/-- The row that a registration can win with: that of its values in normal form, with a hash of its
password. -/
def RowOf (r : Registration) (row : Store.Row) : Prop :=
  ∃ prepared hash salt id time, r.prepare = .ok prepared ∧
    Password.hashLoose? salt (r.password.getD "") = some hash ∧
    row = (Store.Draft.ofRegistration prepared hash).row id (normalEmail r.details.email).chars time

/-- Registrations under one email: every call has tried one insertion at most, and at most one row was
added, which is that of its call. -/
structure Contest (start : World) (rs : List Registration) (email : String) (s : Scene) : Prop where
  insertions : s.world.insertions = start.insertions + (tries s.history).length
  once : (tries s.history).Nodup
  inside : ∀ i ∈ tries s.history, i < rs.length
  table : s.world.table = start.table ++ (won s.history).map (·.2)
  single : won s.history = [] ∨ ∃ k r row, won s.history = [(k, row)] ∧ rs[k]? = some r ∧
    RowOf r row ∧ row.profile.email = email

/-- Payloads that are valid, for accounts that the table can hold, under one email that is free; and
the identifiers that the next insertions are given are new. -/
structure Entrants (start : World) (rs : List Registration) (email : String) : Prop where
  valid : ∀ r ∈ rs, ∃ prepared, r.prepare = .ok prepared ∧
    Store.bindFault? prepared.details.isWhole prepared.details.postcode = none
  emails : ∀ r ∈ rs, (normalEmail r.details.email).chars = email
  free : start.table.findEmail? email = none
  fresh : ∀ n, start.insertions < n → n ≤ start.insertions + rs.length →
    start.table.find? (World.insertionId n) = none

/-- The email of an entrant is a whole text. -/
theorem Entrants.normalEmail_eq (h : Entrants start rs email) {r : Registration} (hr : r ∈ rs) :
    normalEmail r.details.email = (email : LooseText) := by
  obtain ⟨prepared, hprepared, -⟩ := h.valid r hr
  rw [Registration.normalEmail_eq hprepared, h.emails r hr]

/-- A turn in which nothing fails but a look-up for an email, and that with a fault that the database
reports: the clock shows a date, and the salt can be hashed with. -/
structure Turn.Mild (t : Turn) : Prop where
  dated : (Store.stamp? t.now).isSome = true
  salted : (Password.Settings.ofText? t.salt).isSome = true
  faults : ∀ r fault, (t.faults r).sql.head?.join = some fault →
    fault.isReported = true ∧ ∃ email, r = .sql (.findByEmail email)

namespace Contest

/-- A call that has not tried its insertion. -/
def Idle (i : Nat) (s : Scene) : Prop := i ∉ tries s.history

/-- A call that has inserted its row. -/
def Won (i : Nat) (row : Store.Row) (s : Scene) : Prop := won s.history = [(i, row)]

/-- A call that another one was faster than. -/
def Lost (i : Nat) (s : Scene) : Prop := ∃ k row, k ≠ i ∧ won s.history = [(k, row)]

/-! ## Waiting -/

theorem won_kept (h' : Contest start rs email s') {more : List (Nat × Exchange)}
    (hgrown : s'.history = s.history ++ more) {k : Nat} {row : Store.Row}
    (hwon : won s.history = [(k, row)]) : won s'.history = [(k, row)] := by
  rw [hgrown, won_append, hwon]
  rcases h'.single with hnone | ⟨k', r, row', hone, -⟩
  · rw [hgrown, won_append, hwon] at hnone
    cases hnone
  · rw [hgrown, won_append, hwon] at hone
    rw [hone]
    exact congrArg (· :: []) (List.cons.inj hone).1.symm

theorem Idle.awaits (hs : s.Awaits (Contest start rs email) i s') (h : Idle i s) : Idle i s' := by
  obtain ⟨-, more, hgrown, hother⟩ := hs
  unfold Idle
  rw [hgrown, tries_append, List.mem_append, not_or]
  refine ⟨h, fun hmem => ?_⟩
  obtain ⟨x, hx, heq⟩ := List.mem_map.1 hmem
  exact hother x (List.mem_filter.1 hx).1 heq

theorem Won.awaits (hs : s.Awaits (Contest start rs email) i s') {row : Store.Row}
    (h : Won i row s) : Won i row s' :=
  let ⟨_, hgrown, _⟩ := hs.grown
  won_kept hs.inv hgrown h

theorem Lost.awaits (hs : s.Awaits (Contest start rs email) i s') (h : Lost i s) : Lost i s' := by
  obtain ⟨k, row, hk, hwon⟩ := h
  obtain ⟨_, hgrown, _⟩ := hs.grown
  exact ⟨k, row, hk, won_kept hs.inv hgrown hwon⟩

/-! ## Requests -/

/-- A request that sends no command and at most reads the table. -/
abbrev Quiet (r : Request) : Prop := r.Within Store.Reads fun _ => False

theorem quiet_exchange {r : Request} (hr : Quiet r) (reply : r.Reply) :
    Exchange.isInsertion ⟨r, reply⟩ = false ∧ Exchange.inserted? ⟨r, reply⟩ = none := by
  cases r with
  | sql s =>
    cases s with
    | insert | revise | remove => exact hr.elim
    | findById | findByEmail | probe => exact ⟨rfl, rfl⟩
  | cache c => exact hr.elim
  | connection b => exact hr.elim
  | clock | salt | log => exact ⟨rfl, rfl⟩

theorem tries_serve (s : Scene) (t : Turn) (r : Request) :
    tries (s.serve t r).2.history =
      tries s.history ++ if Exchange.isInsertion ⟨r, (s.serve t r).1⟩ then [t.call] else [] := by
  rw [Scene.history_serve, tries_append]
  congr 1
  show ([(t.call, (⟨r, (s.serve t r).1⟩ : Exchange))].filter fun x => x.2.isInsertion).map (·.1) = _
  rw [List.filter_singleton]
  cases Exchange.isInsertion ⟨r, (s.serve t r).1⟩ <;> rfl

theorem won_serve (s : Scene) (t : Turn) (r : Request) :
    won (s.serve t r).2.history = won s.history ++
      (Exchange.inserted? ⟨r, (s.serve t r).1⟩).toList.map (t.call, ·) := Scene.noted_serve _ s t r

/-- The history keeps count of the insertions and of the rows of the table. -/
theorem serve_books (h : Contest start rs email s) {r : Request}
    (hr : r.Within (fun s => ∀ id, ¬ Store.Rewrites id s) fun _ => False) (t : Turn) :
    (s.serve t r).2.world.insertions =
        start.insertions + (tries (s.serve t r).2.history).length ∧
      (s.serve t r).2.world.table = start.table ++ (won (s.serve t r).2.history).map (·.2) := by
  constructor
  · have hcount : (s.serve t r).2.world.insertions = s.world.insertions +
        if Exchange.isInsertion ⟨r, (s.serve t r).1⟩ then 1 else 0 :=
      World.answer_insertions (s.facing t r) r
    rw [hcount, tries_serve, List.length_append, ← Nat.add_assoc, ← h.insertions]
    split <;> rfl
  · have htable : (s.serve t r).2.world.table = s.world.table ++
        (Exchange.inserted? ⟨r, (s.serve t r).1⟩).toList := World.answer_appends hr (s.facing t r)
    rw [htable, won_serve, List.map_append, ← List.append_assoc, ← h.table]
    cases Exchange.inserted? ⟨r, (s.serve t r).1⟩ <;> rfl

/-- A quiet request tells the history of no insertion. -/
theorem serve_quiet_history {r : Request} (hr : Quiet r) (s : Scene) (t : Turn) :
    tries (s.serve t r).2.history = tries s.history ∧
      won (s.serve t r).2.history = won s.history := by
  obtain ⟨htries, hwon⟩ := quiet_exchange hr (s.serve t r).1
  rw [tries_serve, won_serve, htries, hwon]
  exact ⟨List.append_nil _, List.append_nil _⟩

theorem serve_quiet (h : Contest start rs email s) {r : Request} (hr : Quiet r) (t : Turn) :
    Contest start rs email (s.serve t r).2 := by
  obtain ⟨hinsertions, htable⟩ := h.serve_books
    (Within.mono (fun _ hs => hs.not_rewrites) (fun _ hc => hc) r hr) t
  obtain ⟨htries, hwon⟩ := serve_quiet_history hr s t
  exact ⟨hinsertions, by rw [htries]; exact h.once, by rw [htries]; exact h.inside, htable,
    by rw [hwon]; exact h.single⟩

theorem Idle.serve (h : Idle i s) {r : Request} (hr : Quiet r) (t : Turn) :
    Idle i (s.serve t r).2 := by
  unfold Idle
  rw [(serve_quiet_history hr s t).1]
  exact h

theorem Won.serve {row : Store.Row} (h : Won i row s) {r : Request} (hr : Quiet r) (t : Turn) :
    Won i row (s.serve t r).2 := (serve_quiet_history hr s t).2.trans h

theorem Lost.serve (h : Lost i s) {r : Request} (hr : Quiet r) (t : Turn) :
    Lost i (s.serve t r).2 := by
  obtain ⟨k, row, hk, hwon⟩ := h
  exact ⟨k, row, hk, (serve_quiet_history hr s t).2.trans hwon⟩

/-- Under the email there is at most the row of another call, while a call has not tried. -/
theorem taken_by_other (h : Contest start rs email s) (hentrants : Entrants start rs email)
    (hidle : Idle i s) {row : Store.Row} (hrow : s.world.table.findEmail? email = some row) :
    Lost i s := by
  rcases h.single with hnone | ⟨k, r, row', hone, -⟩
  · rw [h.table, hnone, List.map_nil, List.append_nil, hentrants.free] at hrow
    cases hrow
  · refine ⟨k, row', fun heq => hidle ?_, hone⟩
    rw [← heq]
    exact mem_tries_of_mem_won (p := (k, row')) (by rw [hone]; exact List.mem_singleton_self _)

/-- The call that tries its insertion next is given an identifier that is new. -/
theorem fresh_id (h : Contest start rs email s) (hentrants : Entrants start rs email)
    (hi : i < rs.length) (hidle : Idle i s) :
    start.table.find? (World.insertionId (s.world.insertions + 1)) = none := by
  have hnodup : (i :: tries s.history).Nodup := List.nodup_cons.2 ⟨hidle, h.once⟩
  have hsubset : i :: tries s.history ⊆ List.range rs.length := by
    intro j hj
    rcases List.mem_cons.1 hj with rfl | hj
    · exact List.mem_range.2 hi
    · exact List.mem_range.2 (h.inside j hj)
  have hlength := (List.subperm_of_subset hnodup hsubset).length_le
  rw [List.length_cons, List.length_range] at hlength
  have hcount := h.insertions
  exact hentrants.fresh _ (by omega) (by omega)

/-- An insertion keeps the contest in order when the rows that were inserted do. -/
theorem serve_insertion (h : Contest start rs email s) (hi : i < rs.length) (hidle : Idle i s)
    {t : Turn} (ht : t.call = i) (draft : Store.Draft)
    (hsingle : won (s.serve t (.sql (.insert draft))).2.history = [] ∨ ∃ k r row,
      won (s.serve t (.sql (.insert draft))).2.history = [(k, row)] ∧ rs[k]? = some r ∧
        RowOf r row ∧ row.profile.email = email) :
    Contest start rs email (s.serve t (.sql (.insert draft))).2 := by
  obtain ⟨hinsertions, htable⟩ := h.serve_books (r := .sql (.insert draft)) (fun _ => not_false) t
  have htries : tries (s.serve t (.sql (.insert draft))).2.history = tries s.history ++ [i] := by
    rw [tries_serve, ht]
    rfl
  refine ⟨hinsertions, ?_, ?_, htable, hsingle⟩
  · rw [htries]
    refine List.nodup_append.2 ⟨h.once, List.pairwise_singleton _ i, fun a ha b hb heq => hidle ?_⟩
    rw [← List.mem_singleton.1 hb, ← heq]
    exact ha
  · rw [htries]
    intro j hj
    rcases List.mem_append.1 hj with hj | hj
    · exact h.inside j hj
    · rw [List.mem_singleton.1 hj]
      exact hi

/-- What the database makes of an insertion in a mild turn: only the index on the emails can refuse
it. -/
theorem insertion_reply (h : Contest start rs email s) (hentrants : Entrants start rs email)
    (hi : i < rs.length) (hidle : Idle i s) {t : Turn} (hmild : t.Mild) (draft : Store.Draft)
    (hfits : Store.bindFault? draft.isWhole draft.postcode = none)
    (hemail : draft.email = some email) :
    (∃ id time, (s.serve t (.sql (.insert draft))).1 = .ok (draft.row id email time) ∧
        won s.history = []) ∨
      (s.serve t (.sql (.insert draft))).1 = .error .conflict ∧ Lost i s := by
  obtain ⟨time, htime⟩ := Option.isSome_iff_exists.1 hmild.dated
  have hfault : (t.faults (.sql (.insert draft))).sql.head?.join = none := by
    rcases hf : (t.faults (.sql (.insert draft))).sql.head?.join with _ | fault
    · rfl
    · obtain ⟨-, _, hlook⟩ := hmild.faults _ _ hf
      cases hlook
  have hreply : (s.serve t (.sql (.insert draft))).1 = (Store.insert t.now
      (World.insertionId (s.world.insertions + 1)) draft s.world.table).1 :=
    Scene.reply_of_no_fault hfault
  rcases htaken : s.world.table.findEmail? email with _ | row
  · have hnone : won s.history = [] := by
      rcases h.single with hnone | ⟨k, r, row, hone, -, -, hrow⟩
      · exact hnone
      · refine absurd hrow (Store.Table.findEmail?_eq_none.1 htaken row ?_)
        rw [h.table, hone]
        exact List.mem_append_right _ (List.mem_singleton_self _)
    have htable : s.world.table = start.table := by rw [h.table, hnone]; exact List.append_nil _
    have hid := h.fresh_id hentrants hi hidle
    rw [← htable] at hid
    rw [Store.insert_of_free hfits hemail htime hid htaken] at hreply
    exact .inl ⟨_, time, hreply, hnone⟩
  · rw [Store.insert_of_taken hfits hemail htaken] at hreply
    exact .inr ⟨hreply, h.taken_by_other hentrants hidle htaken⟩

/-- An insertion in a mild turn wins, or comes too late. -/
theorem serve_insert (h : Contest start rs email s) (hentrants : Entrants start rs email)
    {r prepared : Registration} {salt hash : String} (hr : rs[i]? = some r)
    (hprepared : r.prepare = .ok prepared)
    (hhash : Password.hashLoose? salt (r.password.getD "") = some hash) (hidle : Idle i s)
    {t : Turn} (ht : t.call = i) (hmild : t.Mild) :
    Contest start rs email (s.serve t (.sql (.insert (.ofRegistration prepared hash)))).2 ∧
    ((∃ row, (s.serve t (.sql (.insert (.ofRegistration prepared hash)))).1 = .ok row ∧
        RowOf r row ∧ Won i row (s.serve t (.sql (.insert (.ofRegistration prepared hash)))).2) ∨
      (s.serve t (.sql (.insert (.ofRegistration prepared hash)))).1 = .error .conflict ∧
        Lost i (s.serve t (.sql (.insert (.ofRegistration prepared hash)))).2) := by
  have hmem : r ∈ rs := List.mem_of_getElem? hr
  have hi : i < rs.length := (List.getElem?_eq_some_iff.1 hr).1
  have hemail : (Store.Draft.ofRegistration prepared hash).email = some email := by
    unfold Store.Draft.ofRegistration
    dsimp only
    rw [Registration.prepared_email hprepared, hentrants.normalEmail_eq hmem]
    rfl
  have hfits : Store.bindFault? prepared.details.isWhole prepared.details.postcode = none := by
    obtain ⟨_, hvalid, hfits⟩ := hentrants.valid r hmem
    rwa [Except.ok.inj (hvalid.symm.trans hprepared)] at hfits
  have hwon := won_serve s t (.sql (.insert (.ofRegistration prepared hash)))
  rcases h.insertion_reply hentrants hi hidle hmild (.ofRegistration prepared hash) hfits
      hemail with
    ⟨id, time, hreply, hnone⟩ | ⟨hreply, k, row, hk, hone⟩
  · have hrow : RowOf r ((Store.Draft.ofRegistration prepared hash).row id email time) :=
      ⟨prepared, hash, salt, id, time, hprepared, hhash, by rw [hentrants.emails r hmem]⟩
    rw [hnone, hreply, ht] at hwon
    exact ⟨h.serve_insertion hi hidle ht _ (.inr ⟨i, r, _, hwon, hr, hrow, rfl⟩),
      .inl ⟨_, hreply, hrow, hwon⟩⟩
  · rw [hreply, hone] at hwon
    rcases h.single with hnone | ⟨k', r', row', hone', hk', hrow', hemail'⟩
    · rw [hone] at hnone
      cases hnone
    · rw [hone] at hone'
      cases hone'
      exact ⟨h.serve_insertion hi hidle ht _ (.inr ⟨k, r', row, hwon, hk', hrow', hemail'⟩),
        .inr ⟨hreply, k, row, hk, hwon⟩⟩

end Contest

end Accounts

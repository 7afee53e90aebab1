import FeatureScan.SharedStore
import Mathlib.Data.List.Induction

/-!
# Callers at the shared store

Any number of calls are on their way at once. A call that sets the shared store up looks whether it
is there, builds a store, and puts it in place; a call that asks for the store gets the one in
place, or has the usual one made. Looking, putting and asking are each done at one stroke, as the
place of the store sees to it. Between these steps other calls may act, the store in place may be
told to read its file or to save, and others may change the files and the environment.

Each call has a number. The maker of the store in place is the call that has put it there, and is
kept so that a store can be told from another one with the same settings.

## Main results

* `Sharing.run_setUp`: the three steps of a call in a row are those of `SharedStore.setUp`.
* `Sharing.Holds.after`: no step changes the maker, the path or the way of loading of the store in
  place.
* `Sharing.Sound.after`: what calls have been answered agrees with the store in place.
* `Sharing.exists_first_ask`: a store that no call has set up was made for the first that asked.
* `Sharing.fixed_by_first`: the store is fixed by the first call that puts one in place.
-/

namespace FeatureScan

/-! ## Stores in use -/

namespace Store

theorem path_ofSettings (f : Files) (c : Settings) : (ofSettings f c).value.path = c.path :=
  path_reload _ f

theorem loads_ofSettings (f : Files) (c : Settings) : (ofSettings f c).value.loads = c.loads :=
  loads_reload _ f

theorem loads_trySave (s : Store) (f : Files) (d : Document) :
    (s.trySave f d).value.store.loads = s.loads := by
  unfold trySave
  dsimp only
  split
  · rfl
  · split <;> rfl

end Store

/-- How far a call has come. -/
inductive Call
  /-- Not begun. -/
  | idle
  /-- A call that sets the store up has looked and found none. -/
  | looked (c : Settings)
  /-- It has built a store. -/
  | built (c : Settings) (store : Store)
  /-- It has returned, and has told whether it was the one that did. -/
  | setUp (c : Settings) (did : Bool)
  /-- A call that asks has returned, with the store of a maker. -/
  | asked (maker : Nat) (store : Store)

/-- The shared store with all that goes on around it. -/
structure Sharing where
  /-- The place of the store. -/
  place : SharedStore
  /-- The call that has put the store in place. -/
  maker? : Option Nat
  /-- The files. -/
  files : Files
  /-- The variable of the environment that may name the file with the rules. -/
  override? : Option String
  /-- The calls, by their numbers. -/
  calls : Nat → Call

namespace Sharing

/-- A step. -/
inductive Action
  /-- A call that sets the store up begins and looks. -/
  | look (k : Nat) (c : Settings)
  /-- A call that has looked builds a store. -/
  | build (k : Nat)
  /-- A call that has built a store puts it in place. -/
  | put (k : Nat)
  /-- A call begins that asks for the store, and gets it. -/
  | ask (k : Nat)
  /-- The store in place is told to read its file. -/
  | reload
  /-- A document is saved into the store in place. -/
  | save (d : Document)
  /-- Others change the files and the environment. -/
  | others (files : Files) (override? : Option String)

/-- Before anything has happened. -/
def start (f : Files) (override? : Option String) : Sharing where
  place := .vacant
  maker? := none
  files := f
  override? := override?
  calls := fun _ => .idle

/-- How far a call has come is noted. -/
def note (w : Sharing) (k : Nat) (call : Call) : Sharing :=
  { w with calls := fun j => if j = k then call else w.calls j }

/-- What there is after a step. A step that no call is ready for does nothing. -/
def after (w : Sharing) : Action → Sharing
  | .look k c =>
    match w.calls k with
    | .idle => w.note k (if w.place.isSet then .setUp c false else .looked c)
    | _ => w
  | .build k =>
    match w.calls k with
    | .looked c => w.note k (.built c (Store.ofSettings w.files c).value)
    | _ => w
  | .put k =>
    match w.calls k with
    | .built c store =>
      let r := w.place.put store
      { w.note k (.setUp c r.2) with
        place := r.1
        maker? := if r.2 then some k else w.maker? }
    | _ => w
  | .ask k =>
    match w.calls k with
    | .idle =>
      let r := (w.place.demand w.files w.override?).value
      let maker := w.maker?.getD k
      { w.note k (.asked maker r.2) with place := r.1, maker? := some maker }
    | _ => w
  | .reload =>
    match w.place.store? with
    | some store => { w with place := ⟨some (store.reload w.files).value⟩ }
    | none => w
  | .save d =>
    match w.place.store? with
    | some store =>
      let o := (store.trySave w.files d).value
      { w with place := ⟨some o.store⟩, files := o.files }
    | none => w
  | .others files override? => { w with files := files, override? := override? }

/-- What there is after some steps. -/
def run (w : Sharing) (actions : List Action) : Sharing := actions.foldl after w

theorem run_snoc (w : Sharing) (actions : List Action) (a : Action) :
    w.run (actions ++ [a]) = (w.run actions).after a := by
  simp only [run, List.foldl_append, List.foldl_cons, List.foldl_nil]

@[simp] theorem calls_note_self (w : Sharing) (k : Nat) (call : Call) :
    (w.note k call).calls k = call := if_pos rfl

theorem calls_note_of_ne (w : Sharing) {j k : Nat} (h : j ≠ k) (call : Call) :
    (w.note k call).calls j = w.calls j := if_neg h

/-- The three steps of a call in a row are those of `SharedStore.setUp`. -/
theorem run_setUp (w : Sharing) {k : Nat} (h : w.calls k = .idle) (c : Settings) :
    (w.run [.look k c, .build k, .put k]).place = (w.place.setUp w.files c).value.1 ∧
      (w.run [.look k c, .build k, .put k]).calls k =
        .setUp c (w.place.setUp w.files c).value.2 := by
  rcases hset : w.place.isSet with _ | _
  · have hvalue : (w.place.setUp w.files c).value =
        w.place.put (Store.ofSettings w.files c).value := by
      unfold SharedStore.setUp
      rw [hset]
      rfl
    have hlook : w.after (.look k c) = w.note k (.looked c) := by
      simp only [after, h, hset, Bool.false_eq_true, if_false]
    have hbuild : (w.note k (.looked c)).after (.build k) =
        (w.note k (.looked c)).note k (.built c (Store.ofSettings w.files c).value) := by
      simp only [after, calls_note_self]
      rfl
    simp only [run, List.foldl_cons, List.foldl_nil, hlook, hbuild]
    rw [hvalue]
    simp only [after, calls_note_self]
    exact ⟨rfl, rfl⟩
  · have hvalue : (w.place.setUp w.files c).value = (w.place, false) := by
      simp only [SharedStore.setUp, hset, if_true]
    have hlook : w.after (.look k c) = w.note k (.setUp c false) := by
      simp only [after, h, hset, if_true]
    have hbuild : (w.note k (.setUp c false)).after (.build k) = w.note k (.setUp c false) := by
      simp only [after, calls_note_self]
    have hput : (w.note k (.setUp c false)).after (.put k) = w.note k (.setUp c false) := by
      simp only [after, calls_note_self]
    simp only [run, List.foldl_cons, List.foldl_nil, hlook, hbuild, hput]
    rw [hvalue]
    exact ⟨rfl, calls_note_self _ _ _⟩

/-! ## One step -/

/-- The store in place has a maker, a path and a way of loading. -/
def Holds (w : Sharing) (maker : Nat) (path : String) (loads : Bool) : Prop :=
  w.maker? = some maker ∧
    ∃ store, w.place.store? = some store ∧ store.path = path ∧ store.loads = loads

/-- No step changes these. -/
theorem Holds.after {w : Sharing} {maker : Nat} {path : String} {loads : Bool}
    (h : w.Holds maker path loads) (a : Action) : (w.after a).Holds maker path loads := by
  obtain ⟨hmaker, store, hstore, hpath, hloads⟩ := h
  cases a with
  | look k c =>
      unfold Sharing.after
      dsimp only
      split <;> exact ⟨hmaker, store, hstore, hpath, hloads⟩
  | build k =>
      unfold Sharing.after
      dsimp only
      split <;> exact ⟨hmaker, store, hstore, hpath, hloads⟩
  | put k =>
      unfold Sharing.after
      dsimp only
      split
      · rw [SharedStore.put_of_some hstore]
        exact ⟨hmaker, store, hstore, hpath, hloads⟩
      · exact ⟨hmaker, store, hstore, hpath, hloads⟩
  | ask k =>
      unfold Sharing.after
      dsimp only
      split
      · rw [SharedStore.demand_of_some hstore, hmaker]
        exact ⟨rfl, store, hstore, hpath, hloads⟩
      · exact ⟨hmaker, store, hstore, hpath, hloads⟩
  | reload =>
      unfold Sharing.after
      dsimp only
      rw [hstore]
      exact ⟨hmaker, _, rfl, (Store.path_reload store w.files).trans hpath,
        (Store.loads_reload store w.files).trans hloads⟩
  | save d =>
      unfold Sharing.after
      dsimp only
      rw [hstore]
      exact ⟨hmaker, _, rfl, (Store.path_trySave store w.files d).trans hpath,
        (Store.loads_trySave store w.files d).trans hloads⟩
  | others files override? => exact ⟨hmaker, store, hstore, hpath, hloads⟩

/-- What one step does for a call. -/
inductive Advance (w : Sharing) (j : Nat) : Action → Call → Prop
  | none {a : Action} : Advance w j a (w.calls j)
  | late {c : Settings} (h : w.calls j = .idle) : Advance w j (.look j c) (.setUp c false)
  | looked {c : Settings} (h : w.calls j = .idle) : Advance w j (.look j c) (.looked c)
  | built {c : Settings} (h : w.calls j = .looked c) :
      Advance w j (.build j) (.built c (Store.ofSettings w.files c).value)
  | put {c : Settings} {store : Store} (h : w.calls j = .built c store) :
      Advance w j (.put j) (.setUp c (w.place.put store).2)
  | asked (h : w.calls j = .idle) :
      Advance w j (.ask j)
        (.asked (w.maker?.getD j) (w.place.demand w.files w.override?).value.2)

theorem advance_after (w : Sharing) (a : Action) (j : Nat) :
    Advance w j a ((w.after a).calls j) := by
  have hnote : ∀ (k : Nat) (call : Call), (j = k → Advance w j a call) →
      Advance w j a ((w.note k call).calls j) := by
    intro k call h
    by_cases hj : j = k
    · subst hj
      rw [calls_note_self]
      exact h rfl
    · rw [calls_note_of_ne w hj]
      exact .none
  cases a with
  | look k c =>
      unfold Sharing.after
      dsimp only
      split
      · rename_i hidle
        refine hnote k _ ?_
        rintro rfl
        split
        · exact .late hidle
        · exact .looked hidle
      · exact .none
  | build k =>
      unfold Sharing.after
      dsimp only
      split
      · rename_i c hlooked
        refine hnote k _ ?_
        rintro rfl
        exact .built hlooked
      · exact .none
  | put k =>
      unfold Sharing.after
      dsimp only
      split
      · rename_i c store hbuilt
        refine hnote k _ ?_
        rintro rfl
        exact .put hbuilt
      · exact .none
  | ask k =>
      unfold Sharing.after
      dsimp only
      split
      · rename_i hidle
        refine hnote k _ ?_
        rintro rfl
        exact .asked hidle
      · exact .none
  | reload =>
      unfold Sharing.after
      dsimp only
      split <;> exact .none
  | save d =>
      unfold Sharing.after
      dsimp only
      split <;> exact .none
  | others files override? => exact .none

theorem put_of_vacant {s : SharedStore} (h : s.store? = none) (store : Store) :
    s.put store = (⟨some store⟩, true) := by
  simp only [SharedStore.put, SharedStore.isSet, h, Option.isSome_none, Bool.false_eq_true,
    if_false]

/-- A place that a store can be put into is vacant. -/
theorem vacant_of_put {s : SharedStore} {store : Store} (h : (s.put store).2 = true) :
    s.store? = none := by
  rcases hs : s.store? with _ | there
  · rfl
  · rw [SharedStore.put_of_some hs] at h
    cases h

/-- Who asks gets the store that is then in place. -/
theorem store?_demand (s : SharedStore) (f : Files) (override? : Option String) :
    (s.demand f override?).value.1.store? = some (s.demand f override?).value.2 := by
  rcases hs : s.store? with _ | store
  · simp only [SharedStore.demand, hs]
    rfl
  · rw [SharedStore.demand_of_some hs]
    exact hs

/-- Where no store is in place, one with the usual settings is made. -/
theorem usual_of_vacant {s : SharedStore} (h : s.store? = none) (f : Files)
    (override? : Option String) :
    (s.demand f override?).value.2.path = (Settings.usual override?).path ∧
      (s.demand f override?).value.2.loads = (Settings.usual override?).loads := by
  have hvalue : (s.demand f override?).value.2 =
      (Store.ofSettings f (.usual override?)).value := by
    simp only [SharedStore.demand, h]
    rfl
  rw [hvalue]
  exact ⟨Store.path_ofSettings f _, Store.loads_ofSettings f _⟩

/-- A store that is put into a vacant place is that of the call that puts it there. -/
theorem holds_put {w : Sharing} {k : Nat} {c : Settings} {store : Store}
    (h : w.calls k = .built c store) (hvacant : w.place.store? = none) :
    (w.after (.put k)).Holds k store.path store.loads := by
  have hput : w.place.put store = (⟨some store⟩, true) := put_of_vacant hvacant store
  simp only [Sharing.after, h, hput]
  exact ⟨rfl, store, rfl, rfl, rfl⟩

/-- Its call is told so. -/
theorem calls_put {w : Sharing} {k : Nat} {c : Settings} {store : Store}
    (h : w.calls k = .built c store) (hvacant : w.place.store? = none) :
    (w.after (.put k)).calls k = .setUp c true := by
  have hput : w.place.put store = (⟨some store⟩, true) := put_of_vacant hvacant store
  simp only [Sharing.after, h, hput]
  exact calls_note_self w k _

/-- Who asks is told whose store it is. -/
theorem holds_ask {w : Sharing} {k : Nat} (h : w.calls k = .idle) :
    (w.after (.ask k)).Holds (w.maker?.getD k)
      (w.place.demand w.files w.override?).value.2.path
      (w.place.demand w.files w.override?).value.2.loads := by
  simp only [Sharing.after, h]
  exact ⟨rfl, _, store?_demand w.place w.files w.override?, rfl, rfl⟩

/-- A vacant place stays so, or it is filled by a call that puts its store there or by one that
asks. -/
theorem vacant_or_filled {w : Sharing} (hvacant : w.place.store? = none) (a : Action) :
    ((w.after a).place.store? = none ∧ (w.after a).maker? = w.maker?) ∨
      (∃ k c store, a = .put k ∧ w.calls k = .built c store) ∨
        ∃ k, a = .ask k ∧ w.calls k = .idle := by
  cases a with
  | put k =>
      unfold Sharing.after
      dsimp only
      split
      · exact .inr (.inl ⟨k, _, _, rfl, ‹_›⟩)
      · exact .inl ⟨hvacant, rfl⟩
  | ask k =>
      unfold Sharing.after
      dsimp only
      split
      · exact .inr (.inr ⟨k, rfl, ‹_›⟩)
      · exact .inl ⟨hvacant, rfl⟩
  | look k c =>
      unfold Sharing.after
      dsimp only
      split <;> exact .inl ⟨hvacant, rfl⟩
  | build k =>
      unfold Sharing.after
      dsimp only
      split <;> exact .inl ⟨hvacant, rfl⟩
  | reload =>
      have hafter : w.after .reload = w := by simp only [Sharing.after, hvacant]
      rw [hafter]
      exact .inl ⟨hvacant, rfl⟩
  | save d =>
      have hafter : w.after (.save d) = w := by simp only [Sharing.after, hvacant]
      rw [hafter]
      exact .inl ⟨hvacant, rfl⟩
  | others files override? => exact .inl ⟨hvacant, rfl⟩

/-! ## What calls have been answered -/

/-- What calls have been answered agrees with the store in place. -/
structure Sound (w : Sharing) : Prop where
  /-- A store in place has a maker, and there is none without. -/
  placed : w.maker?.isSome = w.place.isSet
  /-- A store that a call has built is one for its settings. -/
  built : ∀ {k c store}, w.calls k = .built c store →
    store.path = c.path ∧ store.loads = c.loads
  /-- The store of a call that was the one to set it up is in place. -/
  didSetUp : ∀ {k c}, w.calls k = .setUp c true → w.Holds k c.path c.loads
  /-- The store that a call was answered is in place. -/
  asked : ∀ {k maker store}, w.calls k = .asked maker store →
    w.Holds maker store.path store.loads

theorem sound_start (f : Files) (override? : Option String) : (start f override?).Sound where
  placed := rfl
  built h := nomatch h
  didSetUp h := nomatch h
  asked h := nomatch h

theorem Holds.isSet {w : Sharing} {maker : Nat} {path : String} {loads : Bool}
    (h : w.Holds maker path loads) : w.maker?.isSome = w.place.isSet := by
  obtain ⟨hmaker, store, hstore, -⟩ := h
  rw [hmaker, SharedStore.isSet, hstore]
  rfl

/-- A vacant place has no maker. -/
theorem Sound.maker?_of_vacant {w : Sharing} (h : w.Sound) (hvacant : w.place.store? = none) :
    w.maker? = none := by
  have hplaced := h.placed
  rw [SharedStore.isSet, hvacant] at hplaced
  exact Option.not_isSome_iff_eq_none.mp (by rw [hplaced]; exact Bool.false_ne_true)

/-- A store in place is held by its maker. -/
theorem Sound.holds {w : Sharing} (h : w.Sound) {store : Store}
    (hstore : w.place.store? = some store) :
    ∃ maker, w.Holds maker store.path store.loads := by
  have hplaced := h.placed
  rw [SharedStore.isSet, hstore] at hplaced
  obtain ⟨maker, hmaker⟩ := Option.isSome_iff_exists.mp hplaced
  exact ⟨maker, hmaker, store, hstore, rfl, rfl⟩

theorem Sound.after {w : Sharing} (h : w.Sound) (a : Action) : (w.after a).Sound where
  placed := by
    rcases hstore : w.place.store? with _ | store
    · rcases vacant_or_filled hstore a with
        ⟨hplace, hmaker⟩ | ⟨k, c, store, rfl, hk⟩ | ⟨k, rfl, hk⟩
      · rw [hmaker, h.maker?_of_vacant hstore, SharedStore.isSet, hplace]
        rfl
      · exact (holds_put hk hstore).isSet
      · exact (holds_ask hk).isSet
    · obtain ⟨maker, hholds⟩ := h.holds hstore
      exact (hholds.after a).isSet
  built := by
    intro k c store hk
    have hstep := advance_after w a k
    generalize (w.after a).calls k = call at hk hstep
    cases hstep with
    | none => exact h.built hk
    | built hlooked =>
        cases hk
        exact ⟨Store.path_ofSettings w.files _, Store.loads_ofSettings w.files _⟩
    | late | looked | put | asked => cases hk
  didSetUp := by
    intro k c hk
    have hstep := advance_after w a k
    generalize (w.after a).calls k = call at hk hstep
    cases hstep with
    | none => exact (h.didSetUp hk).after a
    | put hbuilt =>
        obtain ⟨rfl, hput⟩ := Call.setUp.inj hk
        obtain ⟨hpath, hloads⟩ := h.built hbuilt
        rw [← hpath, ← hloads]
        exact holds_put hbuilt (vacant_of_put hput)
    | late | looked | built | asked => cases hk
  asked := by
    intro k maker store hk
    have hstep := advance_after w a k
    generalize (w.after a).calls k = call at hk hstep
    cases hstep with
    | none => exact (h.asked hk).after a
    | asked hidle =>
        cases hk
        exact holds_ask hidle
    | late | looked | built | put => cases hk

theorem Sound.run {w : Sharing} (h : w.Sound) (actions : List Action) : (w.run actions).Sound := by
  induction actions using List.reverseRecOn with
  | nil => exact h
  | append_singleton actions a ih =>
      rw [run_snoc]
      exact ih.after a

theorem Holds.run {w : Sharing} {maker : Nat} {path : String} {loads : Bool}
    (h : w.Holds maker path loads) (actions : List Action) :
    (w.run actions).Holds maker path loads := by
  induction actions using List.reverseRecOn with
  | nil => exact h
  | append_singleton actions a ih =>
      rw [run_snoc]
      exact ih.after a

/-- A call that has set the store up remains the one that did. -/
theorem calls_after_of_setUp {w : Sharing} {k : Nat} {c : Settings} {did : Bool}
    (h : w.calls k = .setUp c did) (a : Action) : (w.after a).calls k = .setUp c did := by
  have hstep := advance_after w a k
  generalize (w.after a).calls k = call at hstep
  cases hstep with
  | none => exact h
  | late hk | looked hk | built hk | put hk | asked hk =>
      rw [hk] at h
      cases h

/-! ## The first -/

/-- A store in place that no call has set up was made, with the usual settings of the moment, for
the first call that asked. -/
theorem exists_first_ask (f : Files) (override? : Option String) (actions : List Action)
    (hset : ((start f override?).run actions).place.store? ≠ none)
    (hnone : ∀ k c, ((start f override?).run actions).calls k ≠ .setUp c true) :
    ∃ before k later, actions = before ++ .ask k :: later ∧
      ((start f override?).run before).place.store? = none ∧
      ((start f override?).run before).calls k = .idle ∧
      ((start f override?).run actions).Holds k
        (Settings.usual ((start f override?).run before).override?).path
        (Settings.usual ((start f override?).run before).override?).loads := by
  induction actions using List.reverseRecOn with
  | nil => exact absurd rfl hset
  | append_singleton actions a ih =>
      have hsound := (sound_start f override?).run actions
      rw [run_snoc] at hset hnone ⊢
      by_cases hbefore : ((start f override?).run actions).place.store? = none
      · -- the place is filled by this very step
        rcases vacant_or_filled hbefore a with
          ⟨hplace, -⟩ | ⟨k, c, store, rfl, hk⟩ | ⟨k, rfl, hk⟩
        · exact absurd hplace hset
        · exact absurd (calls_put hk hbefore) (hnone k c)
        · have hholds := holds_ask hk
          rw [hsound.maker?_of_vacant hbefore] at hholds
          obtain ⟨hpath, hloads⟩ := usual_of_vacant hbefore
            ((start f override?).run actions).files ((start f override?).run actions).override?
          rw [hpath, hloads] at hholds
          exact ⟨actions, k, [], rfl, hbefore, hk, hholds⟩
      · obtain ⟨before, k, later, rfl, hvacant, hidle, hholds⟩ :=
          ih hbefore fun k c hk => hnone k c (calls_after_of_setUp hk a)
        exact ⟨before, k, later ++ [a], by rw [List.append_assoc]; rfl, hvacant, hidle,
          hholds.after a⟩

/-- The shared store is fixed by the first call that puts one in place. However the steps of the
calls, of readings and savings of the store in place and of other changes of the files and of the
environment follow each other:

* at most one call is told that it was the one that set the store up;
* a store in place keeps its maker, its path and its way of loading whatever follows;
* every call that asks is answered the store in place, and so is every one that has asked;
* if a call is told that it set the store up, the store in place is its own, for its settings;
* otherwise the store in place was made for the first call that asked, with the settings that were
  usual at that moment;
* a call that has built a store is told so just if the place is still vacant. -/
theorem fixed_by_first (f : Files) (override? : Option String) (actions : List Action) :
    let w := (start f override?).run actions
    (∀ j k c d, w.calls j = .setUp c true → w.calls k = .setUp d true → j = k) ∧
    (∀ store, w.place.store? = some store → ∃ maker, ∀ more : List Action,
      (w.run more).Holds maker store.path store.loads) ∧
    (∀ k, w.calls k = .idle → ∃ maker store,
      (w.after (.ask k)).calls k = .asked maker store ∧
        (w.after (.ask k)).place.store? = some store) ∧
    (∀ k maker store, w.calls k = .asked maker store → w.Holds maker store.path store.loads) ∧
    (∀ k c, w.calls k = .setUp c true → w.Holds k c.path c.loads) ∧
    (w.place.store? ≠ none → (∀ k c, w.calls k ≠ .setUp c true) →
      ∃ before k later, actions = before ++ .ask k :: later ∧
        let v := (start f override?).run before
        v.place.store? = none ∧ v.calls k = .idle ∧
        (∀ j maker store, v.calls j ≠ .asked maker store) ∧
        w.Holds k (Settings.usual v.override?).path (Settings.usual v.override?).loads) ∧
    (∀ k c store, w.calls k = .built c store →
      (w.after (.put k)).calls k = .setUp c (!w.place.isSet)) := by
  intro w
  have hsound : w.Sound := (sound_start f override?).run actions
  refine ⟨?_, ?_, ?_, fun k maker store => hsound.asked, fun k c => hsound.didSetUp, ?_, ?_⟩
  · intro j k c d hj hk
    have hmaker := (hsound.didSetUp hj).1
    rw [(hsound.didSetUp hk).1] at hmaker
    exact (Option.some.inj hmaker).symm
  · intro store hstore
    obtain ⟨maker, hholds⟩ := hsound.holds hstore
    exact ⟨maker, hholds.run⟩
  · intro k hidle
    refine ⟨w.maker?.getD k, (w.place.demand w.files w.override?).value.2, ?_, ?_⟩
    · simp only [Sharing.after, hidle]
      exact calls_note_self w k _
    · simp only [Sharing.after, hidle]
      exact store?_demand w.place w.files w.override?
  · intro hset hnone
    obtain ⟨before, k, later, hactions, hvacant, hidle, hholds⟩ :=
      exists_first_ask f override? actions hset hnone
    refine ⟨before, k, later, hactions, hvacant, hidle, ?_, hholds⟩
    intro j maker store hj
    obtain ⟨-, there, hthere, -⟩ := ((sound_start f override?).run before).asked hj
    rw [hvacant] at hthere
    cases hthere
  · intro k c store hbuilt
    rcases hplace : w.place.store? with _ | there
    · rw [calls_put hbuilt hplace, SharedStore.isSet, hplace]
      rfl
    · simp only [Sharing.after, hbuilt, SharedStore.put_of_some hplace]
      rw [SharedStore.isSet, hplace]
      exact calls_note_self w k _

/-- Of two calls that both have found no store, the one that puts its store there first wins. -/
example (f : Files) (override? : Option String) (c d : Settings) :
    let w := (start f override?).run [.look 0 c, .look 1 d, .build 0, .build 1, .put 1, .put 0]
    w.maker? = some 1 ∧ w.calls 0 = .setUp c false := ⟨rfl, rfl⟩

end Sharing

end FeatureScan

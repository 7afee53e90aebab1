import FeatureScan.Batch
import FeatureScan.Proofs.Store.Saving
import Mathlib.Data.List.Induction

/-!
# A store that does not read its file

Such a store begins without rules, and goes back to none whenever it is told to read its file. Yet
it takes over what is saved into it, as every store does. So what it holds is what stands: what was
saved last, unless it has been told to read its file since. It is without rules at every time if and
only if no rules are ever saved.

## Main results

* `Session.store_after_of_kept`: a session keeps its store unless it reads or saves.
* `Session.stands_snoc`: what stands after one more action.
* `Session.rules_run_eq_iff`: the store holds what stands, and nothing if nothing stands.
* `Session.unread_rules`: when a store that does not read its file is without rules.
-/

namespace FeatureScan

/-- The scanner made from a store is the builtin one if and only if the store is without rules. -/
theorem Scanner.ofStore_eq_builtin_iff (s : Store) :
    ofStore s = builtin ↔ s.rules = .empty := by
  constructor
  · intro h
    exact congrArg (fun made => made.value.document) h
  · intro h
    rw [ofStore, h]
    rfl

/-- A store at work among files. -/
structure Session where
  /-- The store. -/
  store : Store
  /-- The files. -/
  files : Files

namespace Session

open Store (zoomDocument)

/-- What may happen in a session. -/
inductive Action
  /-- The store is told to read its file. -/
  | reload
  /-- A document is saved; a fault is noted. -/
  | save (d : Document)
  /-- A document is saved; a fault is given back. -/
  | trySave (d : Document)
  /-- The rules or the raw object are looked at. -/
  | look
  /-- Others change the files. -/
  | others (files : Files)

/-- The session after an action. -/
def after (w : Session) : Action → Session
  | .reload => { w with store := (w.store.reload w.files).value }
  | .save d =>
    let o := (w.store.save w.files d).value
    ⟨o.store, o.files⟩
  | .trySave d =>
    let o := (w.store.trySave w.files d).value
    ⟨o.store, o.files⟩
  | .look => w
  | .others files => { w with files := files }

/-- The session that settings begin. -/
def ofSettings (f : Files) (c : Settings) : Session := ⟨(Store.ofSettings f c).value, f⟩

/-- The session after some actions. -/
def run (w : Session) (actions : List Action) : Session := actions.foldl after w

/-- The document that an action gets saved, if it does. -/
def saved? (w : Session) : Action → Option Document
  | .save d | .trySave d =>
    if (w.store.trySave w.files d).value.fault?.isNone then some d else none
  | .reload | .look | .others _ => none

/-- A document stands after a run if it was saved, and neither another one was saved since nor the
store told to read its file. -/
inductive Stands (w : Session) : List Action → Document → Prop
  | saved {actions : List Action} {a : Action} {d : Document}
      (h : (w.run actions).saved? a = some d) : Stands w (actions ++ [a]) d
  | kept {actions : List Action} {a : Action} {d : Document} (h : Stands w actions d)
      (hreload : a ≠ .reload) (hnone : (w.run actions).saved? a = none) :
      Stands w (actions ++ [a]) d

/-! ## One action -/

theorem store_after_trySave (w : Session) (d : Document) :
    (w.after (.trySave d)).store = (w.store.trySave w.files d).value.store := by
  rw [after]

theorem after_save (w : Session) (d : Document) : w.after (.save d) = w.after (.trySave d) := by
  have hvalue : (w.store.save w.files d).value = (w.store.trySave w.files d).value := by
    rw [Store.save, Logged.value_bind, Logged.value_bind, Logged.value_pure]
  rw [after, after, hvalue]

/-- What an action gets saved is what the store holds then. -/
theorem rules_after_of_saved {w : Session} {a : Action} {d : Document} (h : w.saved? a = some d) :
    (w.after a).store.rules = d := by
  have htrySave : ∀ e, w.saved? (.trySave e) = some d → (w.after (.trySave e)).store.rules = d := by
    intro e he
    rw [saved?] at he
    split at he
    · next hfault =>
      rw [← Option.some.inj he, store_after_trySave]
      exact Store.rules_trySave w.store w.files e (Option.isNone_iff_eq_none.1 hfault)
    · cases he
  cases a with
  | save e =>
      rw [after_save]
      exact htrySave e h
  | trySave e => exact htrySave e h
  | reload => cases h
  | look => cases h
  | others files => cases h

/-- A session keeps its store unless it reads or saves. -/
theorem store_after_of_kept {w : Session} {a : Action} (hreload : a ≠ .reload)
    (hnone : w.saved? a = none) : (w.after a).store = w.store := by
  have htrySave : ∀ e, w.saved? (.trySave e) = none →
      (w.after (.trySave e)).store = w.store := by
    intro e he
    rw [saved?] at he
    split at he
    · cases he
    · next hfault =>
      rw [Option.isNone_iff_eq_none] at hfault
      rw [store_after_trySave]
      exact (Store.trySave_of_fault w.store w.files e hfault).1
  cases a with
  | save e =>
      rw [after_save]
      exact htrySave e hnone
  | trySave e => exact htrySave e hnone
  | reload => exact absurd rfl hreload
  | look => rfl
  | others files => rfl

/-- No action makes a store read its file that does not. -/
theorem loads_after (w : Session) (a : Action) : (w.after a).store.loads = w.store.loads := by
  have htrySave : ∀ d, (w.after (.trySave d)).store.loads = w.store.loads := by
    intro d
    rw [store_after_trySave]
    by_cases hfault : (w.store.trySave w.files d).value.fault? = none
    · obtain ⟨made, written, -, -, houtcome⟩ := Store.trySave_of_no_fault hfault
      rw [houtcome]
      rfl
    · rw [(Store.trySave_of_fault w.store w.files d hfault).1]
  cases a with
  | reload => exact Store.loads_reload w.store w.files
  | save d =>
      rw [after_save]
      exact htrySave d
  | trySave d => exact htrySave d
  | look => rfl
  | others files => rfl

theorem rules_after_reload {w : Session} (h : w.store.loads = false) :
    (w.after .reload).store.rules = .empty := by
  show (w.store.reload w.files).value.rules = .empty
  rw [Store.reload, if_neg (by simp [h])]
  rfl

/-! ## Runs -/

theorem run_snoc (w : Session) (actions : List Action) (a : Action) :
    w.run (actions ++ [a]) = (w.run actions).after a := by
  simp only [run, List.foldl_append, List.foldl_cons, List.foldl_nil]

theorem loads_run (w : Session) (actions : List Action) :
    (w.run actions).store.loads = w.store.loads := by
  induction actions using List.reverseRecOn with
  | nil => rfl
  | append_singleton actions a ih => rw [run_snoc, loads_after, ih]

/-- What stands after one more action. -/
theorem stands_snoc {w : Session} {actions : List Action} {a : Action} {d : Document} :
    Stands w (actions ++ [a]) d ↔
      (w.run actions).saved? a = some d ∨
        Stands w actions d ∧ a ≠ .reload ∧ (w.run actions).saved? a = none := by
  constructor
  · intro h
    generalize hall : actions ++ [a] = all at h
    cases h with
    | saved h =>
        obtain ⟨rfl, rfl⟩ := List.append_singleton_inj.1 hall
        exact .inl h
    | kept h hreload hnone =>
        obtain ⟨rfl, rfl⟩ := List.append_singleton_inj.1 hall
        exact .inr ⟨h, hreload, hnone⟩
  · rintro (h | ⟨h, hreload, hnone⟩)
    · exact .saved h
    · exact .kept h hreload hnone

theorem not_stands_nil {w : Session} {d : Document} : ¬ Stands w [] d := by
  intro h
  generalize hall : ([] : List Action) = all at h
  cases h with
  | saved h => exact List.append_ne_nil_of_right_ne_nil _ (List.cons_ne_nil _ _) hall.symm
  | kept h => exact List.append_ne_nil_of_right_ne_nil _ (List.cons_ne_nil _ _) hall.symm

/-- The induction is on the run: the last action saves, reads, or keeps the store. -/
theorem rules_run {w : Session} (hloads : w.store.loads = false) (hempty : w.store.rules = .empty)
    (actions : List Action) :
    Stands w actions (w.run actions).store.rules ∨
      (w.run actions).store.rules = .empty ∧ ∀ e, ¬ Stands w actions e := by
  induction actions using List.reverseRecOn with
  | nil => exact .inr ⟨hempty, fun e => not_stands_nil⟩
  | append_singleton actions a ih =>
      rw [run_snoc]
      cases hsaved : (w.run actions).saved? a with
      | some d =>
          rw [rules_after_of_saved hsaved]
          exact .inl (.saved hsaved)
      | none =>
          by_cases hreload : a = .reload
          · subst hreload
            refine .inr ⟨rules_after_reload ((loads_run w actions).trans hloads), ?_⟩
            intro e he
            rcases stands_snoc.1 he with h | ⟨-, hne, -⟩
            · cases h
            · exact hne rfl
          · rw [store_after_of_kept hreload hsaved]
            rcases ih with hstands | ⟨hrules, hnone⟩
            · exact .inl (.kept hstands hreload hsaved)
            · refine .inr ⟨hrules, ?_⟩
              intro e he
              rcases stands_snoc.1 he with h | ⟨h, -, -⟩
              · rw [hsaved] at h
                cases h
              · exact hnone e h

/-- No two documents stand. -/
theorem Stands.unique {w : Session} {actions : List Action} {d e : Document}
    (hd : Stands w actions d) (he : Stands w actions e) : d = e := by
  induction hd with
  | saved h =>
      rcases stands_snoc.1 he with h' | ⟨-, -, hnone⟩
      · exact Option.some.inj (h.symm.trans h')
      · rw [h] at hnone
        cases hnone
  | kept h hreload hnone ih =>
      rcases stands_snoc.1 he with h' | ⟨h', -, -⟩
      · rw [hnone] at h'
        cases h'
      · exact ih h'

/-- The store holds what stands, and nothing if nothing stands. -/
theorem rules_run_eq_iff {w : Session} (hloads : w.store.loads = false)
    (hempty : w.store.rules = .empty) (actions : List Action) (d : Document) :
    (w.run actions).store.rules = d ↔
      Stands w actions d ∨ d = .empty ∧ ∀ e, ¬ Stands w actions e := by
  have hrun := rules_run hloads hempty actions
  constructor
  · rintro rfl
    exact hrun
  · rintro (hd | ⟨rfl, hnone⟩)
    · rcases hrun with h | ⟨-, hnone⟩
      · exact h.unique hd
      · exact absurd hd (hnone d)
    · rcases hrun with h | ⟨h, -⟩
      · exact absurd h (hnone _)
      · exact h

/-- What stands was saved by one of the actions. -/
theorem Stands.exists_saved {w : Session} {actions : List Action} {d : Document}
    (h : Stands w actions d) :
    ∃ before a, before ++ [a] <+: actions ∧ (w.run before).saved? a = some d := by
  induction h with
  | @saved before a _ h => exact ⟨before, a, List.prefix_rfl, h⟩
  | @kept actions a _ _ _ _ ih =>
      obtain ⟨before, b, hprefix, hsaved⟩ := ih
      exact ⟨before, b, hprefix.trans (List.prefix_append _ _), hsaved⟩

/-! ## Stores made without reading -/

/-- A store that does not read its file, whatever happens to it, holds what stands, and nothing if
nothing stands; exactly while it holds nothing, the scanners made from it are the builtin one. It is
without rules at every time if and only if no rules are ever saved. -/
theorem unread_rules (f : Files) {c : Settings} (hloads : c.loads = false)
    (actions : List Action) :
    (∀ d, ((ofSettings f c).run actions).store.rules = d ↔
      Stands (ofSettings f c) actions d ∨ d = .empty ∧ ∀ e, ¬ Stands (ofSettings f c) actions e) ∧
    (((ofSettings f c).run actions).store.rules = .empty ↔
      Scanner.ofStore ((ofSettings f c).run actions).store = Scanner.builtin) ∧
    ((∀ before, before <+: actions → ((ofSettings f c).run before).store.rules = .empty) ↔
      ∀ before a d, before ++ [a] <+: actions →
        ((ofSettings f c).run before).saved? a = some d → d = .empty) := by
  have hwloads : (ofSettings f c).store.loads = false := (Store.loads_reload _ f).trans hloads
  have hwempty : (ofSettings f c).store.rules = .empty := by
    rw [ofSettings, Store.ofSettings, Store.reload, if_neg (by simp [hloads])]
    rfl
  refine ⟨rules_run_eq_iff hwloads hwempty actions, (Scanner.ofStore_eq_builtin_iff _).symm, ?_⟩
  constructor
  · intro hall before a d hprefix hsaved
    have hrules := hall (before ++ [a]) hprefix
    rw [run_snoc, rules_after_of_saved hsaved] at hrules
    exact hrules
  · intro hall before hprefix
    rcases rules_run hwloads hwempty before with hstands | ⟨hrules, -⟩
    · obtain ⟨earlier, a, hearlier, hsaved⟩ := hstands.exists_saved
      exact hall earlier a _ (hearlier.trans hprefix) hsaved
    · exact hrules

/-- The session with a store for builtin rules alone and no files. -/
def bare : Session := ofSettings .empty (.builtinOnly none)

theorem unread_rules_bare :
    (Settings.builtinOnly none).loads = false ∧
    (bare.run [.save zoomDocument, .look, .reload, .others .empty]).store.rules = .empty ∧
    Stands bare [.save zoomDocument, .look] zoomDocument ∧
    (bare.run [.save zoomDocument, .look]).store.rules = zoomDocument := by
  have hsaved : (bare.run []).saved? (.save zoomDocument) = some zoomDocument := by rfl
  have hstands : Stands bare [.save zoomDocument, .look] zoomDocument :=
    .kept (.saved hsaved) (fun h => by cases h) rfl
  have hnone : ∀ e, ¬ Stands bare [.save zoomDocument, .look, .reload, .others .empty] e := by
    intro e he
    have hlook : Stands bare ([.save zoomDocument, .look, .reload] ++ [.others .empty]) e := he
    rcases stands_snoc.1 hlook with h | ⟨hreload, -, -⟩
    · cases h
    · have hbefore : Stands bare ([.save zoomDocument, .look] ++ [.reload]) e := hreload
      rcases stands_snoc.1 hbefore with h | ⟨-, hne, -⟩
      · cases h
      · exact hne rfl
  obtain ⟨hrules, -, -⟩ := unread_rules .empty (c := .builtinOnly none) rfl
    [.save zoomDocument, .look, .reload, .others .empty]
  obtain ⟨hkept, -, -⟩ := unread_rules .empty (c := .builtinOnly none) rfl
    [.save zoomDocument, .look]
  exact ⟨rfl, (hrules .empty).2 (.inr ⟨rfl, hnone⟩), hstands,
    (hkept zoomDocument).2 (.inl hstands)⟩

/-- Saving gives rules to a store that does not read its file: they are in force in every scanner
made from it. -/
theorem rules_after_save_unread :
    bare.store.loads = false ∧ bare.store.rules = .empty ∧
    (bare.run [.save zoomDocument]).store.rules ≠ .empty ∧
    Scanner.ofStore (bare.run [.save zoomDocument]).store ≠ Scanner.builtin := by
  have hsaved : (bare.run []).saved? (.save zoomDocument) = some zoomDocument := by rfl
  have hrules : (bare.run [.save zoomDocument]).store.rules = zoomDocument :=
    rules_after_of_saved hsaved
  have hne : (bare.run [.save zoomDocument]).store.rules ≠ .empty := by
    rw [hrules]
    decide
  refine ⟨rfl, rfl, hne, ?_⟩
  rw [ne_eq, Scanner.ofStore_eq_builtin_iff]
  exact hne

end Session

end FeatureScan

import SourceSpans.CommandLine
import SourceSpans.Proofs.Success
import Mathlib.Data.List.Basic

/-!
# What a command line can store

The state of a command is changed by its options and by its positional
arguments and by nothing else, in whatever order they are used.  So a property
that each of them keeps is a property of what the whole line sets.
-/

namespace SourceSpans

namespace CommandLine

open Success

variable {σ : Type} {P : σ → Prop}

/-- Storing values keeps a property of the state. -/
def Store.Keeps (P : σ → Prop) (store : Store σ) : Prop :=
  ∀ values state after, P state → store values state = .ok after → P after

/-- What an option does keeps a property of the state. -/
def Effect.Keeps (P : σ → Prop) : Effect σ → Prop
  | .help => True
  | .flag set => ∀ state, P state → P (set state)
  | .value store => Store.Keeps P store

/-- Every argument of a grammar keeps a property of the state. -/
structure Grammar.Keeps (P : σ → Prop) (g : Grammar σ) : Prop where
  option : ∀ o ∈ g.options, o.effect.Keeps P
  positional : ∀ p ∈ g.positionals, Store.Keeps P p.store

/-- An argument that counts as an option is one of the options of the grammar. -/
def Mark.Known (g : Grammar σ) : Mark σ → Prop
  | .option _ o _ => o ∈ g.options
  | _ => True

theorem single_of_read {read : Text → Except Text Value} {set : Value → σ → σ}
    {t : Text} {v : Value} {state : σ} (h : read t = .ok v) :
    single read set [t] state = .ok (set v state) := by
  have hsingle : single read set [t] state = (read t).map fun v => set v state := rfl
  rw [hsingle, h]
  rfl

theorem read_of_mem_mapM {read : Text → Except Text Value} {given : List Text}
    {vs : List Value} (h : given.mapM read = .ok vs) :
    ∀ v ∈ vs, ∃ t, read t = .ok v := by
  induction given generalizing vs with
  | nil =>
      obtain rfl := Except.ok.inj h
      simp
  | cons t rest ih =>
      rw [List.mapM_cons] at h
      obtain ⟨v, hv, h⟩ := bind_eq_ok_iff.mp h
      obtain ⟨others, hothers, h⟩ := bind_eq_ok_iff.mp h
      obtain rfl := Except.ok.inj h
      exact List.forall_mem_cons.mpr ⟨⟨t, hv⟩, ih hothers⟩

/-- An argument that stores one value stores what is read from a text, or a list
of such values. -/
theorem keeps_single {Q : Value → Prop} {read : Text → Except Text Value}
    {set : Value → σ → σ} (hread : ∀ t v, read t = .ok v → Q v)
    (hlist : ∀ vs, (∀ v ∈ vs, Q v) → Q (.list vs))
    (hset : ∀ v state, Q v → P state → P (set v state)) :
    Store.Keeps P (single read set) := by
  intro values state after hstate h
  unfold single at h
  split at h
  next given =>
    obtain ⟨v, hv, rfl⟩ := map_eq_ok_iff.mp h
    exact hset v state (hread given v hv) hstate
  next =>
    obtain ⟨vs, hvs, rfl⟩ := map_eq_ok_iff.mp h
    refine hset _ state (hlist vs fun v hv => ?_) hstate
    obtain ⟨t, ht⟩ := read_of_mem_mapM hvs v hv
    exact hread t v ht

namespace Grammar

variable {g : Grammar σ}

/-! ## Options are found in the grammar -/

theorem mem_options_of_mem_names {name : Text} {o : Opt σ}
    (h : (name, o) ∈ g.names) : o ∈ g.options := by
  obtain ⟨o', ho', hname⟩ := List.mem_flatMap.mp h
  obtain ⟨name', -, heq⟩ := List.mem_map.mp hname
  rw [Prod.mk.injEq] at heq
  rwa [← heq.2]

theorem mem_options_of_named? {name : Text} {o : Opt σ}
    (h : g.named? name = some o) : o ∈ g.options := by
  obtain ⟨entry, hentry, rfl⟩ := Option.map_eq_some_iff.mp h
  exact mem_options_of_mem_names (List.mem_of_find?_eq_some hentry)

theorem mem_options_of_mem_candidates {arg name : Text} {o : Opt σ}
    {attached : Option Text} (h : (name, o, attached) ∈ g.candidates arg) :
    o ∈ g.options := by
  have hfound : ∀ {f : Text × Opt σ → Option (Text × Opt σ × Option Text)},
      (∀ entry result, f entry = some result → result.2.1 = entry.2) →
      (name, o, attached) ∈ g.names.filterMap f → o ∈ g.options := by
    intro f hf hmem
    obtain ⟨entry, hentry, heq⟩ := List.mem_filterMap.mp hmem
    have hopt : o = entry.2 := hf entry _ heq
    rw [hopt]
    exact mem_options_of_mem_names hentry
  unfold candidates at h
  split at h
  · refine hfound ?_ h
    intro entry result hresult
    simp only [Option.ite_none_right_eq_some, Option.some.injEq] at hresult
    rw [← hresult.2]
  · refine hfound ?_ h
    rintro ⟨name', o'⟩ result hresult
    dsimp only at hresult
    split at hresult
    next => rw [← Option.some.inj hresult]
    next =>
      simp only [Option.ite_none_right_eq_some, Option.some.injEq] at hresult
      rw [← hresult.2]

theorem known_of_assigned? {arg : Text} {m : Mark σ}
    (h : g.assigned? arg = some m) : m.Known g := by
  unfold assigned? at h
  split at h
  next => simp at h
  next =>
    obtain ⟨o, ho, rfl⟩ := Option.map_eq_some_iff.mp h
    exact mem_options_of_named? ho

theorem known_of_markDashed {arg : Text} {m : Mark σ}
    (h : g.markDashed arg = .ok m) : m.Known g := by
  unfold markDashed at h
  split at h
  next =>
    split at h
    · obtain rfl := Except.ok.inj h
      trivial
    · obtain rfl := Except.ok.inj h
      trivial
  next name o attached hcandidates =>
    obtain rfl := Except.ok.inj h
    have hmem : (name, o, attached) ∈ g.candidates arg := by
      rw [hcandidates]
      exact List.mem_cons_self
    exact mem_options_of_mem_candidates hmem
  next => simp at h

theorem known_of_mark {arg : Text} {m : Mark σ} (h : g.mark arg = .ok m) :
    m.Known g := by
  unfold mark at h
  split at h
  next => exact Except.ok.inj h ▸ trivial
  next first others =>
    split at h
    next => exact Except.ok.inj h ▸ trivial
    next =>
      split at h
      next o ho =>
        obtain rfl := Except.ok.inj h
        exact mem_options_of_named? ho
      next =>
        split at h
        next => exact Except.ok.inj h ▸ trivial
        next =>
          split at h
          next m' hm' =>
            obtain rfl := Except.ok.inj h
            exact known_of_assigned? hm'
          next => exact known_of_markDashed h

theorem known_of_markAll {args : List Text} {marked : List (Text × Mark σ)}
    (h : g.markAll args = .ok marked) : ∀ entry ∈ marked, entry.2.Known g := by
  induction args generalizing marked with
  | nil =>
      obtain rfl := Except.ok.inj h
      simp
  | cons arg rest ih =>
      unfold markAll at h
      split at h
      next =>
        obtain rfl := Except.ok.inj h
        intro entry hentry
        rcases List.mem_cons.mp hentry with rfl | hword
        · trivial
        · obtain ⟨word, -, rfl⟩ := List.mem_map.mp hword
          trivial
      next =>
        obtain ⟨m, hm, hothers⟩ := bind_eq_ok_iff.mp h
        obtain ⟨others, hall, hmarked⟩ := bind_eq_ok_iff.mp hothers
        obtain rfl := Except.ok.inj hmarked
        intro entry hentry
        rcases List.mem_cons.mp hentry with rfl | hmem
        · exact known_of_mark hm
        · exact ih hall entry hmem

theorem mem_options_of_unbundle {name given : Text} {o : Opt σ} {b : Bundle σ}
    (ho : o ∈ g.options) (h : g.unbundle name o given = .ok b) :
    b.last ∈ g.options ∧ ∀ flag ∈ b.flags, flag ∈ g.options := by
  induction given generalizing name o b with
  | nil =>
      unfold unbundle at h
      split at h
      · obtain rfl := Except.ok.inj h
        exact ⟨ho, by simp⟩
      · simp at h
  | cons c rest ih =>
      unfold unbundle at h
      split at h
      next =>
        obtain rfl := Except.ok.inj h
        exact ⟨ho, by simp⟩
      next =>
        split at h
        next => simp at h
        next =>
          split at h
          next => simp at h
          next next hnext =>
            have hknown := mem_options_of_named? hnext
            split at h
            · obtain rfl := Except.ok.inj h
              exact ⟨hknown, by simpa using ho⟩
            · obtain ⟨b', hb', rfl⟩ := map_eq_ok_iff.mp h
              obtain ⟨hlast, hflags⟩ := ih hknown hb'
              exact ⟨hlast, List.forall_mem_cons.mpr ⟨ho, hflags⟩⟩

theorem mem_options_of_bundle {name : Text} {o : Opt σ} {given : Option Text}
    {b : Bundle σ} (ho : o ∈ g.options) (h : g.bundle name o given = .ok b) :
    b.last ∈ g.options ∧ ∀ flag ∈ b.flags, flag ∈ g.options := by
  cases given with
  | none =>
      obtain rfl := Except.ok.inj h
      exact ⟨ho, by simp⟩
  | some text => exact mem_options_of_unbundle ho h

/-! ## One step -/

theorem keeps_perform {o : Opt σ} {values : List Text} {state after : σ}
    (ho : o.effect.Keeps P) (hstate : P state)
    (h : g.perform o values state = .ok after) : P after := by
  unfold perform at h
  split at h
  next => simp at h
  next set heffect =>
    rw [heffect] at ho
    obtain rfl := Except.ok.inj h
    exact ho state hstate
  next store heffect =>
    rw [heffect] at ho
    exact ho _ state after hstate (mapError_eq_ok_iff.mp h)

theorem keeps_performAll {os : List (Opt σ)} {state after : σ}
    (hos : ∀ o ∈ os, o.effect.Keeps P) (hstate : P state)
    (h : g.performAll os state = .ok after) : P after := by
  induction os generalizing state with
  | nil =>
      obtain rfl := Except.ok.inj h
      exact hstate
  | cons o rest ih =>
      obtain ⟨middle, hfirst, hrest⟩ := bind_eq_ok_iff.mp h
      obtain ⟨ho, hothers⟩ := List.forall_mem_cons.mp hos
      exact ih hothers (keeps_perform ho hstate hfirst) hrest

theorem keeps_takeOption (hg : g.Keeps P) {name : Text} {o : Opt σ}
    {attached : Option Text} {ahead : List (Text × Mark σ)} {state after : σ}
    {used : Nat} (ho : o ∈ g.options) (hstate : P state)
    (h : g.takeOption name o attached ahead state = .ok (after, used)) :
    P after := by
  obtain ⟨b, hb, h⟩ := bind_eq_ok_iff.mp h
  obtain ⟨⟨values, used'⟩, -, h⟩ := bind_eq_ok_iff.mp h
  obtain ⟨middle, hflags, h⟩ := bind_eq_ok_iff.mp h
  obtain ⟨last, hlast, h⟩ := bind_eq_ok_iff.mp h
  obtain ⟨rfl, -⟩ := Prod.mk.inj (Except.ok.inj h)
  obtain ⟨hlastKnown, hflagsKnown⟩ := mem_options_of_bundle ho hb
  have hmiddle : P middle :=
    keeps_performAll (fun flag hflag => hg.option flag (hflagsKnown flag hflag))
      hstate hflags
  exact keeps_perform (hg.option b.last hlastKnown) hmiddle hlast

/-- Filling positional arguments keeps the property, and neither the arguments
left open nor those left ahead are new. -/
theorem keeps_fill {pending stillOpen : List (Positional σ)} {state after : σ}
    {ahead rest : List (Text × Mark σ)}
    (hopen : ∀ p ∈ pending, Store.Keeps P p.store) (hstate : P state)
    (h : g.fill pending state ahead = .ok (stillOpen, after, rest)) :
    P after ∧ stillOpen ⊆ pending ∧ rest ⊆ ahead := by
  induction pending generalizing state ahead with
  | nil =>
      simp only [fill, Except.ok.injEq, Prod.mk.injEq] at h
      obtain ⟨rfl, rfl, rfl⟩ := h
      exact ⟨hstate, List.Subset.refl _, List.Subset.refl _⟩
  | cons p others ih =>
      unfold fill at h
      split at h
      next =>
        simp only [Except.ok.injEq, Prod.mk.injEq] at h
        obtain ⟨rfl, rfl, rfl⟩ := h
        exact ⟨hstate, List.Subset.refl _, List.Subset.refl _⟩
      next n hn =>
        dsimp only at h
        split at h
        next => simp at h
        next middle hmiddle =>
          obtain ⟨hp, hothers⟩ := List.forall_mem_cons.mp hopen
          have hkept : P middle := hp _ state middle hstate hmiddle
          obtain ⟨hafter, hstillOpen, hrest⟩ := ih hothers hkept h
          exact ⟨hafter, List.subset_cons_of_subset p hstillOpen,
            List.Subset.trans hrest (List.drop_subset n ahead)⟩

/-! ## The whole line -/

theorem keeps_useAll (hg : g.Keeps P) {progress last : Progress σ}
    {ahead : List (Text × Mark σ)} (hstate : P progress.state)
    (hpending : progress.pending ⊆ g.positionals)
    (hahead : ∀ entry ∈ ahead, entry.2.Known g)
    (h : g.useAll progress ahead = .ok last) : P last.state := by
  fun_induction useAll g progress ahead with
  | case1 progress =>
      obtain rfl := Except.ok.inj h
      exact hstate
  | case2 progress arg ahead ih =>
      exact ih hstate hpending (List.forall_mem_cons.mp hahead).2 h
  | case3 progress arg name o attached ahead e he => simp at h
  | case4 progress arg name o attached ahead state used hused ih =>
      obtain ⟨ho, hrest⟩ := List.forall_mem_cons.mp hahead
      refine ih (keeps_takeOption hg ho hstate hused) hpending ?_ h
      exact fun entry hentry => hrest entry (List.drop_subset used ahead hentry)
  | case5 progress arg mark ahead _ _ e he => simp at h
  | case6 progress arg mark ahead _ _ pending state after hfill hshorter ih =>
      have hopen : ∀ p ∈ progress.pending, Store.Keeps P p.store :=
        fun p hp => hg.positional p (hpending hp)
      obtain ⟨hafter, hstillOpen, hrest⟩ := keeps_fill hopen hstate hfill
      exact ih hafter (List.Subset.trans hstillOpen hpending)
        (fun entry hentry => hahead entry (hrest hentry)) h
  | case7 progress arg mark ahead _ _ pending state after hfill hshorter ih =>
      exact ih hstate hpending (List.forall_mem_cons.mp hahead).2 h

/-- A property that holds of the state at first and is kept by every argument
of a grammar holds of what any command line sets. -/
theorem keeps_read (hg : g.Keeps P) {initial state : σ} {args leftOver : List Text}
    (hinitial : P initial) (h : g.read initial args = .ok (state, leftOver)) :
    P state := by
  obtain ⟨marked, hmarked, h⟩ := bind_eq_ok_iff.mp h
  obtain ⟨progress, hprogress, h⟩ := bind_eq_ok_iff.mp h
  have hstate : P progress.state :=
    keeps_useAll hg hinitial (List.Subset.refl _) (known_of_markAll hmarked) hprogress
  split at h
  · obtain ⟨rfl, -⟩ := Prod.mk.inj (Except.ok.inj h)
    exact hstate
  · exact absurd h throw_ne_ok

end Grammar

end CommandLine

end SourceSpans

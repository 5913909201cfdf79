import LineShell.Proofs.Session.CommandAnswers

/-!
# Registering groups

A registry lists its groups and has a table of their names.  A call enters the names of a group one
by one, and fails at the first of them that is taken; then the group is not listed, but the names in
front of that one stay in the table.  So what is listed is always found, in whatever order groups
are accepted and refused, and what is found is listed as long as no group is refused behind its
first name.
-/

namespace LineShell

namespace Registry

variable {registry : Registry} {group : CommandGroup}

/-- The entries that lead from the names of some commands to a group. -/
def entriesOf (group : CommandGroup) (specs : List CommandSpec) : List (Text × CommandGroup) :=
  specs.map fun spec => (spec.name.lower, group)

/-- Some of the commands has a name, but for case. -/
def Offers (specs : List CommandSpec) (name : Text) : Prop :=
  ∃ spec ∈ specs, spec.name.lower = name.lower

instance (specs : List CommandSpec) (name : Text) : Decidable (Offers specs name) :=
  inferInstanceAs (Decidable (∃ spec ∈ specs, spec.name.lower = name.lower))

/-- A group is listed with a name, but for case. -/
def Lists (registry : Registry) (name : Text) (group : CommandGroup) : Prop :=
  group ∈ registry.groups ∧ Offers group.commands name

/-- The first name of a group is taken. -/
def StartsTaken (registry : Registry) (group : CommandGroup) : Prop :=
  ∃ first ∈ group.commands.head?, registry.contains first.name = true

theorem find?_congr {name other : Text} (h : name.lower = other.lower) :
    registry.find? name = registry.find? other := by
  rw [find?, find?, h]

theorem contains_eq_false {name : Text} :
    registry.contains name = false ↔ registry.find? name = none := by
  rw [contains, Option.isSome_eq_false_iff, Option.isNone_iff_eq_none]

theorem lookup_entriesOf {specs : List CommandSpec} {name : Text} {owner : CommandGroup} :
    (entriesOf group specs).lookup name.lower = some owner ↔ Offers specs name ∧ owner = group := by
  induction specs with
  | nil => simp [entriesOf, Offers]
  | cons spec rest ih =>
      rw [entriesOf, List.map_cons, List.lookup_cons]
      by_cases hspec : name.lower = spec.name.lower
      · simp [hspec, Offers, eq_comm]
      · rw [beq_eq_false_iff_ne.mpr hspec]
        simpa [Offers, Ne.symm hspec, entriesOf] using ih

/-- Where entries of a group were added, a name leads where it led, or to that group. -/
theorem find?_of_entered {after : Registry} {entered : List CommandSpec}
    (htable : after.table = registry.table ++ entriesOf group entered) {name : Text}
    {owner : CommandGroup} :
    after.find? name = some owner ↔ registry.find? name = some owner ∨
      registry.contains name = false ∧ Offers entered name ∧ owner = group := by
  rw [contains_eq_false, find?, find?, htable, List.lookup_append, Option.or_eq_some_iff,
    lookup_entriesOf]

/-! ### One call -/

/-- What a call does with the names of a group: it enters those in front, which are free, and either
comes to their end or to one that is taken, by what was in the table or by what it entered. -/
theorem exists_enter (group : CommandGroup) (specs : List CommandSpec)
    (table : List (Text × CommandGroup)) :
    ∃ entered, (enter group specs table).2 = table ++ entriesOf group entered ∧
      (∀ spec ∈ entered, table.lookup spec.name.lower = none) ∧
      ((enter group specs table).1 = none ∧ specs = entered ∨
        ∃ clash rest, specs = entered ++ clash :: rest ∧
          (enter group specs table).1 = some clash.name.lower ∧
          ((table ++ entriesOf group entered).lookup clash.name.lower).isSome = true) := by
  induction specs generalizing table with
  | nil => exact ⟨[], by simp [enter, entriesOf], by simp, .inl ⟨rfl, rfl⟩⟩
  | cons spec rest ih =>
      rw [enter]
      split <;> rename_i htaken
      · exact ⟨[], by simp [entriesOf], by simp,
          .inr ⟨spec, rest, rfl, rfl, by simpa [entriesOf] using htaken⟩⟩
      · obtain ⟨entered, htable, hfree, hend⟩ := ih (table ++ [(spec.name.lower, group)])
        have hentries : table ++ [(spec.name.lower, group)] ++ entriesOf group entered =
            table ++ entriesOf group (spec :: entered) := by
          simp [entriesOf]
        refine ⟨spec :: entered, by rw [htable, hentries], ?_, ?_⟩
        · intro other hother
          rcases List.mem_cons.mp hother with rfl | hrest
          · exact Option.not_isSome_iff_eq_none.mp htaken
          · have hnone := hfree other hrest
            rw [List.lookup_append, Option.or_eq_none_iff] at hnone
            exact hnone.1
        · rcases hend with ⟨hnone, rfl⟩ | ⟨clash, others, rfl, hsome, hclash⟩
          · exact .inl ⟨hnone, rfl⟩
          · exact .inr ⟨clash, others, rfl, hsome, by rwa [← hentries]⟩

/-- A group is listed once all its names are entered. -/
theorem register_of_entered (hnone : (enter group group.commands registry.table).1 = none) :
    (registry.register group).1 = none ∧
      (registry.register group).2.groups = registry.groups ++ [group] := by
  rw [register]
  split <;> simp_all

/-- A group is not listed where one of its names is taken. -/
theorem register_of_taken {taken : Text}
    (htaken : (enter group group.commands registry.table).1 = some taken) :
    (registry.register group).1 = some taken ∧
      (registry.register group).2.groups = registry.groups := by
  rw [register]
  split <;> simp_all

/-- What a call does to a registry: it enters commands from the front of a group, and either all of
them, and lists the group, or those in front of one whose name is then taken. -/
theorem exists_register (registry : Registry) (group : CommandGroup) :
    ∃ entered, (∀ spec ∈ entered, registry.contains spec.name = false) ∧
      (registry.register group).2.table = registry.table ++ entriesOf group entered ∧
      ((registry.register group).1 = none ∧ group.commands = entered ∧
          (registry.register group).2.groups = registry.groups ++ [group] ∨
        ∃ clash rest, group.commands = entered ++ clash :: rest ∧
          (registry.register group).1 = some clash.name.lower ∧
          (registry.register group).2.groups = registry.groups ∧
          (registry.register group).2.contains clash.name = true) := by
  obtain ⟨entered, htable, hfree, hend⟩ := exists_enter group group.commands registry.table
  rw [← table_register] at htable
  refine ⟨entered, fun spec hspec => ?_, htable, ?_⟩
  · rw [contains, find?, hfree spec hspec]
    rfl
  · rcases hend with ⟨hnone, hall⟩ | ⟨clash, rest, hparts, hsome, hclash⟩
    · obtain ⟨hdone, hgroups⟩ := register_of_entered hnone
      exact .inl ⟨hdone, hall, hgroups⟩
    · obtain ⟨hfails, hgroups⟩ := register_of_taken hsome
      exact .inr ⟨clash, rest, hparts, hfails, hgroups, by rwa [contains, find?, htable]⟩

/-- What is listed after a call was listed before it, or was free and is found now. -/
theorem lists_register {name : Text} {owner : CommandGroup}
    (hlists : (registry.register group).2.Lists name owner) :
    registry.Lists name owner ∨
      registry.contains name = false ∧ (registry.register group).2.find? name = some owner := by
  obtain ⟨hlisted, hoffers⟩ := hlists
  obtain ⟨entered, hfree, htable, ⟨-, hall, hgroups⟩ | ⟨-, -, -, -, hgroups, -⟩⟩ :=
    exists_register registry group
  · rw [hgroups, List.mem_append, List.mem_singleton] at hlisted
    rcases hlisted with hlisted | rfl
    · exact .inl ⟨hlisted, hoffers⟩
    · obtain ⟨spec, hspec, hname⟩ := id hoffers
      have hnone := hfree spec (hall ▸ hspec)
      rw [contains, find?_congr hname] at hnone
      exact .inr ⟨hnone, (find?_of_entered htable).mpr (.inr ⟨hnone, hall ▸ hoffers, rfl⟩)⟩
  · exact .inl ⟨hgroups ▸ hlisted, hoffers⟩

/-- A group whose first name is taken is refused, and changes nothing. -/
theorem register_of_startsTaken (hfirst : registry.StartsTaken group) :
    (registry.register group).1.isSome = true ∧ (registry.register group).2 = registry := by
  obtain ⟨first, hhead, htaken⟩ := hfirst
  obtain ⟨rest, hcommands⟩ := List.head?_eq_some_iff.mp hhead
  have henter : enter group group.commands registry.table =
      (some first.name.lower, registry.table) := by
    rw [hcommands, enter]
    exact if_pos htaken
  rw [register, henter]
  exact ⟨rfl, rfl⟩

/-- What is found before a call is found after it. -/
theorem find?_register {name : Text} {owner : CommandGroup}
    (hfound : registry.find? name = some owner) :
    (registry.register group).2.find? name = some owner := by
  obtain ⟨entered, -, htable, -⟩ := exists_register registry group
  exact (find?_of_entered htable).mpr (.inl hfound)

/-- What a refused call changes: the names in front of the one that is taken lead to the group. -/
theorem exists_refused {taken : Text} (hfails : (registry.register group).1 = some taken) :
    ∃ entered clash rest, group.commands = entered ++ clash :: rest ∧ clash.name.lower = taken ∧
      (registry.register group).2.groups = registry.groups ∧
      (∀ spec ∈ entered, registry.contains spec.name = false) ∧
      (∀ name owner, (registry.register group).2.find? name = some owner ↔
        registry.find? name = some owner ∨
          registry.contains name = false ∧ Offers entered name ∧ owner = group) ∧
      (entered = [] ↔ registry.StartsTaken group) := by
  obtain ⟨entered, hfree, htable, ⟨hnone, -⟩ | ⟨clash, rest, hparts, hsome, hgroups, hclash⟩⟩ :=
    exists_register registry group
  · simp [hnone] at hfails
  · refine ⟨entered, clash, rest, hparts, Option.some.inj (hsome.symm.trans hfails), hgroups, hfree,
      fun name owner => find?_of_entered htable, ?_⟩
    cases entered with
    | nil =>
        refine iff_of_true rfl ⟨clash, by simp [hparts], ?_⟩
        rw [contains, find?] at hclash ⊢
        simpa [htable, entriesOf] using hclash
    | cons first others =>
        refine iff_of_false (List.cons_ne_nil _ _) ?_
        rintro ⟨front, hfront, htaken⟩
        rw [hparts, List.cons_append, List.head?_cons, Option.mem_some_iff] at hfront
        rw [← hfront, hfree first List.mem_cons_self] at htaken
        cases htaken

/-- A group that is refused behind its first name makes a name found that was free. -/
theorem exists_astray {taken : Text} (hfails : (registry.register group).1 = some taken)
    (hfirst : ¬ registry.StartsTaken group) :
    ∃ name, registry.contains name = false ∧
      (registry.register group).2.contains name = true := by
  obtain ⟨entered, clash, rest, -, -, -, hfree, hfound, hempty⟩ := exists_refused hfails
  obtain ⟨first, hmem⟩ := List.exists_mem_of_ne_nil entered (mt hempty.mp hfirst)
  have hname := hfree first hmem
  refine ⟨first.name, hname, Option.isSome_iff_exists.mpr ⟨group, ?_⟩⟩
  exact (hfound first.name group).mpr (.inr ⟨hname, ⟨first, hmem, rfl⟩, rfl⟩)

/-- A call fails without a trace just if it fails at the first name. -/
theorem contains_register_iff {taken : Text} (hfails : (registry.register group).1 = some taken) :
    (∀ name, (registry.register group).2.contains name = registry.contains name) ↔
      registry.StartsTaken group := by
  refine ⟨fun hsame => ?_, fun hfirst name => by rw [(register_of_startsTaken hfirst).2]⟩
  by_contra hfirst
  obtain ⟨name, hfree, hfound⟩ := exists_astray hfails hfirst
  rw [hsame, hfree] at hfound
  cases hfound

/-! ### Calls one after the other -/

@[simp]
theorem ofGroups_nil : ofGroups [] = empty := rfl

@[simp]
theorem ofGroups_concat (groups : List CommandGroup) (group : CommandGroup) :
    ofGroups (groups ++ [group]) = ((ofGroups groups).register group).2 :=
  List.foldl_concat ..

/-- The names that are listed are those of the listed groups. -/
theorem offers_commands {name : Text} :
    Offers registry.commands name ↔ ∃ owner, registry.Lists name owner := by
  simp only [Offers, Lists, commands, List.mem_flatMap]
  grind

/-- What is listed is found. -/
theorem find?_of_lists {groups : List CommandGroup} {name : Text} {owner : CommandGroup}
    (hlists : (ofGroups groups).Lists name owner) : (ofGroups groups).find? name = some owner := by
  induction groups using List.reverseRecOn with
  | nil => exact absurd hlists.1 List.not_mem_nil
  | append_singleton groups group ih =>
      rw [ofGroups_concat] at hlists ⊢
      rcases lists_register hlists with hbefore | ⟨-, hfound⟩
      · exact find?_register (ih hbefore)
      · exact hfound

/-- Each name that leads to a group is listed. -/
def Complete (registry : Registry) : Prop :=
  ∀ name, registry.contains name = true → Offers registry.commands name

/-- A call that is not refused behind the first name leaves every name listed. -/
theorem Complete.register (hcomplete : registry.Complete)
    (hfirst : (registry.register group).1.isSome = true → registry.StartsTaken group) :
    (registry.register group).2.Complete := by
  obtain ⟨entered, hfree, htable, ⟨-, hall, hgroups⟩ | ⟨clash, -, -, hsome, -⟩⟩ :=
    exists_register registry group
  · intro name hfound
    obtain ⟨owner, hfound⟩ := Option.isSome_iff_exists.mp hfound
    rw [offers_commands]
    simp only [Lists, hgroups]
    rcases (find?_of_entered htable).mp hfound with hbefore | ⟨-, hoffers, rfl⟩
    · obtain ⟨lister, hlisted, hoffers⟩ :=
        offers_commands.mp (hcomplete name (Option.isSome_iff_exists.mpr ⟨owner, hbefore⟩))
      exact ⟨lister, List.mem_append_left _ hlisted, hoffers⟩
    · exact ⟨owner, List.mem_append_right _ (List.mem_singleton_self _), hall ▸ hoffers⟩
  · rw [(register_of_startsTaken (hfirst (by rw [hsome]; rfl))).2]
    exact hcomplete

/-- A name that is found and not listed is not listed by any call to come. -/
theorem not_complete_register (hcomplete : ¬ registry.Complete) :
    ¬ (registry.register group).2.Complete := by
  simp only [Complete, not_forall, exists_prop] at hcomplete ⊢
  obtain ⟨name, hfound, hunlisted⟩ := hcomplete
  obtain ⟨owner, howner⟩ := Option.isSome_iff_exists.mp hfound
  refine ⟨name, Option.isSome_iff_exists.mpr ⟨owner, find?_register howner⟩, fun hlisted => ?_⟩
  obtain ⟨lister, hlists⟩ := offers_commands.mp hlisted
  rcases lists_register hlists with hbefore | ⟨hfree, -⟩
  · exact hunlisted (offers_commands.mpr ⟨lister, hbefore⟩)
  · rw [hfound] at hfree
    cases hfree

/-- What one call does to the names: they stay listed, if they are, unless the group is refused
behind its first name. -/
theorem complete_concat_iff (groups : List CommandGroup) (group : CommandGroup) :
    (ofGroups (groups ++ [group])).Complete ↔ (ofGroups groups).Complete ∧
      (((ofGroups groups).register group).1.isSome = true →
        (ofGroups groups).StartsTaken group) := by
  rw [ofGroups_concat]
  refine ⟨fun hafter => ⟨not_imp_not.mp not_complete_register hafter, fun hfails => ?_⟩,
    fun ⟨hbefore, hfirst⟩ => hbefore.register hfirst⟩
  by_contra hfirst
  obtain ⟨taken, hfails⟩ := Option.isSome_iff_exists.mp hfails
  obtain ⟨name, hfree, hfound⟩ := exists_astray hfails hfirst
  obtain ⟨-, -, -, -, -, hgroups, -⟩ := exists_refused hfails
  -- The name is listed by no group of before, since it is not found there, and the group itself is
  -- not listed.
  obtain ⟨lister, hlisted, hoffers⟩ := offers_commands.mp (hafter name hfound)
  have hbefore : (ofGroups groups).find? name = some lister :=
    find?_of_lists ⟨hgroups ▸ hlisted, hoffers⟩
  rw [contains_eq_false.mp hfree] at hbefore
  cases hbefore

/-- What is found is listed exactly if no call was refused behind the first name of its group. -/
theorem complete_iff (groups : List CommandGroup) :
    (ofGroups groups).Complete ↔ ∀ before group, before ++ [group] <+: groups →
      ((ofGroups before).register group).1.isSome = true →
        (ofGroups before).StartsTaken group := by
  induction groups using List.reverseRecOn with
  | nil =>
      refine iff_of_true (fun name hfound => by simp [contains, find?, empty] at hfound) ?_
      intro before group hbegins
      simp at hbegins
  | append_singleton groups last ih =>
      rw [complete_concat_iff, ih]
      constructor
      · rintro ⟨hbefore, hlast⟩ before group hbegins
        rcases List.prefix_concat_iff.mp hbegins with heq | hbegins
        · obtain ⟨rfl, rfl⟩ := (by simpa using heq : before = groups ∧ group = last)
          exact hlast
        · exact hbefore before group hbegins
      · exact fun hall => ⟨fun before group hbegins =>
          hall before group (hbegins.trans (List.prefix_append _ _)),
          hall groups last List.prefix_rfl⟩

/-- What is listed is dispatched to the group that lists it. -/
theorem dispatch_of_lists {groups : List CommandGroup} {owner : CommandGroup}
    {invocation : Invocation} (hlists : (ofGroups groups).Lists invocation.name owner) :
    (ofGroups groups).dispatch invocation =
      owner.run { invocation with name := invocation.name.lower } := by
  rw [dispatch, find?_of_lists hlists]

/-- After any calls, a call that is refused leaves the commands that are listed, and every name
leads where it led, but for the names of the group in front of the one that is taken: they lead to
the refused group.  So it leaves what is found exactly if it is refused at the first name.  What is
listed is dispatched to the group that lists it; and the names that are found are those that are
listed exactly if no call was refused behind the first name of its group. -/
theorem register_keeps_iff (groups : List CommandGroup) :
    (∀ group taken, ((ofGroups groups).register group).1 = some taken →
      ∃ entered clash rest, group.commands = entered ++ clash :: rest ∧
        clash.name.lower = taken ∧
        ((ofGroups groups).register group).2.commands = (ofGroups groups).commands ∧
        (∀ name owner, ((ofGroups groups).register group).2.find? name = some owner ↔
          (ofGroups groups).find? name = some owner ∨
            (ofGroups groups).contains name = false ∧ Offers entered name ∧ owner = group) ∧
        ((∀ name, ((ofGroups groups).register group).2.contains name =
          (ofGroups groups).contains name) ↔ entered = [])) ∧
    (∀ owner ∈ (ofGroups groups).groups, ∀ invocation, Offers owner.commands invocation.name →
      (ofGroups groups).dispatch invocation =
        owner.run { invocation with name := invocation.name.lower }) ∧
    ((∀ name, (ofGroups groups).contains name = true ↔ Offers (ofGroups groups).commands name) ↔
      ∀ before group, before ++ [group] <+: groups →
        ((ofGroups before).register group).1.isSome = true →
          (ofGroups before).StartsTaken group) := by
  refine ⟨fun group taken hfails => ?_,
    fun owner howner invocation hoffers => dispatch_of_lists ⟨howner, hoffers⟩, ?_⟩
  · obtain ⟨entered, clash, rest, hparts, hclash, hgroups, -, hfound, hempty⟩ :=
      exists_refused hfails
    refine ⟨entered, clash, rest, hparts, hclash, by rw [commands, hgroups, commands], hfound, ?_⟩
    rw [contains_register_iff hfails, hempty]
  · rw [← complete_iff]
    refine ⟨fun hall name => (hall name).mp,
      fun hcomplete name => ⟨hcomplete name, fun hlisted => ?_⟩⟩
    obtain ⟨owner, hlists⟩ := offers_commands.mp hlisted
    exact Option.isSome_iff_exists.mpr ⟨owner, find?_of_lists hlists⟩

/-- A group with commands of some names that reply nothing. -/
def silentGroup (names : List Text) : CommandGroup where
  commands := names.map fun name => { name, usage := name, description := [] }
  run _ := return {}

/-- A group that is refused for its second name is found by its first one. -/
theorem register_keeps_iff_astray :
    ((ofGroups [silentGroup ["ls"]]).register (silentGroup ["pwd", "LS"])).1 = some ("ls" : Text) ∧
      ((ofGroups [silentGroup ["ls"]]).register (silentGroup ["pwd", "LS"])).2.commands =
        (ofGroups [silentGroup ["ls"]]).commands ∧
      ((ofGroups [silentGroup ["ls"]]).register (silentGroup ["pwd", "LS"])).2.find? "pwd" =
        some (silentGroup ["pwd", "LS"]) := by
  have hfails : ((ofGroups [silentGroup ["ls"]]).register (silentGroup ["pwd", "LS"])).1 =
      some ("ls" : Text) := by
    decide +kernel
  obtain ⟨entered, clash, rest, hparts, hclash, hcommands, hfound, -⟩ :=
    (register_keeps_iff [silentGroup ["ls"]]).1 _ _ hfails
  refine ⟨hfails, hcommands, (hfound _ _).mpr (.inr ⟨by decide +kernel, ?_, rfl⟩)⟩
  cases entered with
  | nil =>
      obtain ⟨rfl, -⟩ := List.cons.inj hparts
      exact absurd hclash (by decide +kernel)
  | cons first others =>
      obtain ⟨rfl, -⟩ := List.cons.inj hparts
      exact ⟨_, List.mem_cons_self, rfl⟩

/-- A refused call makes a name found that was not found before, and that is listed nowhere. -/
theorem not_register_keeps_astray :
    ((ofGroups [silentGroup ["ls"]]).register (silentGroup ["pwd", "LS"])).1 = some ("ls" : Text) ∧
      (ofGroups [silentGroup ["ls"]]).contains "pwd" = false ∧
      (ofGroups [silentGroup ["ls"], silentGroup ["pwd", "LS"]]).contains "pwd" = true ∧
      ¬ Offers (ofGroups [silentGroup ["ls"], silentGroup ["pwd", "LS"]]).commands "pwd" :=
  ⟨by decide +kernel, by decide +kernel, by decide +kernel, by decide +kernel⟩

end Registry

end LineShell

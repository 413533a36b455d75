import Postroom.Chain

/-!
The built-in mailets, as a predicate on mailets. The standard catalogue builds no others, and in
whatever state one of them leaves a mail, the mail was in that state before, or is dropped, or the
state is the one that the mailet names as its target.
-/

namespace Postroom

namespace Mail

variable (mail : Mail) (now : Instant) (recipient : Address)

@[simp] theorem removeRecipient_state :
    (mail.removeRecipient now recipient).state = mail.state := by
  unfold removeRecipient
  split <;> rfl

@[simp] theorem removeRecipient_sender :
    (mail.removeRecipient now recipient).sender = mail.sender := by
  unfold removeRecipient
  split <;> rfl

@[simp] theorem removeRecipient_content :
    (mail.removeRecipient now recipient).content = mail.content := by
  unfold removeRecipient
  split <;> rfl

@[simp] theorem removeRecipient_attributes :
    (mail.removeRecipient now recipient).attributes = mail.attributes := by
  unfold removeRecipient
  split <;> rfl

end Mail

namespace Mailet

/-- Whether a mailet is one of the built-in ones, with any parameters. -/
inductive IsBuiltin : Mailet → Prop where
  | null : IsBuiltin null
  | toProcessor (processor : String) (notice : Option String) :
      IsBuiltin (toProcessor processor notice)
  | setAttribute (name value : String) : IsBuiltin (setAttribute name value)
  | removeAttribute (name : String) : IsBuiltin (removeAttribute name)
  | addHeader (name value : String) : IsBuiltin (addHeader name value)
  | logMessage (comment : Option String) : IsBuiltin (logMessage comment)
  | localDelivery (store : MailboxStore) : IsBuiltin (localDelivery store)
  | bounce (settings : Bounce) : IsBuiltin (bounce settings)

theorem deliverEach_state (store : MailboxStore) (recipients : List Address) (mail : Mail)
    (pass : Pass) : (deliverEach store mail pass recipients).mail.state = mail.state := by
  induction recipients generalizing mail pass with
  | nil => rfl
  | cons recipient rest ih =>
      unfold deliverEach
      split
      · rfl
      · rw [ih, Mail.removeRecipient_state]

/-- A built-in mailet leaves the state of a mail, or drops the mail, or hands it to its target. -/
theorem IsBuiltin.state_cases {mailet : Mailet} (h : mailet.IsBuiltin) (mail : Mail)
    (pass : Pass) :
    (mailet.service mail pass).mail.state = mail.state ∨
      (mailet.service mail pass).mail.state = StateName.ghost ∨
      mailet.target = some (mailet.service mail pass).mail.state := by
  cases h with
  | null => exact .inr (.inl rfl)
  | toProcessor processor notice => exact .inr (.inr rfl)
  | setAttribute name value => exact .inl rfl
  | removeAttribute name => exact .inl rfl
  | addHeader name value => exact .inl rfl
  | logMessage comment => exact .inl rfl
  | localDelivery store =>
      have hserved := deliverEach_state store mail.recipients.toList mail pass
      unfold Mailet.localDelivery
      dsimp only
      split
      · exact .inr (.inl rfl)
      · exact .inl hserved
  | bounce settings =>
      unfold Mailet.bounce
      dsimp only
      split
      · exact .inr (.inl rfl)
      · split
        · exact .inl rfl
        · exact .inr (.inl rfl)

end Mailet

/-- What succeeds has succeeded in both of its parts. -/
theorem ok_of_bind {ε α β : Type} {first : Except ε α} {second : α → Except ε β} {result : β}
    (h : (first >>= second) = .ok result) : ∃ a, first = .ok a ∧ second a = .ok result := by
  cases first with
  | error e => cases h
  | ok a => exact ⟨a, rfl, h⟩

/-- What holds of all that can be built holds of everything that is built in a row. -/
theorem forall_of_mapM {ε α β : Type} {build : α → Except ε β} {holds : β → Prop}
    (hbuild : ∀ a b, build a = .ok b → holds b) {as : List α} {bs : List β}
    (h : as.mapM build = .ok bs) : ∀ b ∈ bs, holds b := by
  induction as generalizing bs with
  | nil =>
      cases h
      simp
  | cons a as ih =>
      rw [List.mapM_cons] at h
      obtain ⟨first, hfirst, h⟩ := ok_of_bind h
      obtain ⟨rest, hrest, h⟩ := ok_of_bind h
      cases h
      intro b hb
      rcases List.mem_cons.1 hb with rfl | hlater
      · exact hbuild a b hfirst
      · exact ih hrest b hlater

namespace Catalogue

theorem builtinMailets_isBuiltin {name : String} {build : MailetBuilder} {params : Params}
    {host : Host} {mailet : Mailet} (hmem : (name, build) ∈ builtinMailets)
    (h : build params host = .ok mailet) : mailet.IsBuiltin := by
  simp only [builtinMailets, List.mem_cons, Prod.mk.injEq, List.not_mem_nil, or_false] at hmem
  rcases hmem with ⟨-, rfl⟩ | ⟨-, rfl⟩ | ⟨-, rfl⟩ | ⟨-, rfl⟩ | ⟨-, rfl⟩ | ⟨-, rfl⟩ | ⟨-, rfl⟩ |
    ⟨-, rfl⟩
  · cases h
    exact .null
  · obtain ⟨processor, -, h⟩ := ok_of_bind h
    cases h
    exact .toProcessor ..
  · obtain ⟨name, -, h⟩ := ok_of_bind h
    obtain ⟨value, -, h⟩ := ok_of_bind h
    cases h
    exact .setAttribute ..
  · obtain ⟨name, -, h⟩ := ok_of_bind h
    cases h
    exact .removeAttribute ..
  · obtain ⟨name, -, h⟩ := ok_of_bind h
    obtain ⟨value, -, h⟩ := ok_of_bind h
    unfold Mailet.checkedHeader at h
    split at h
    · cases h
    · split at h
      · cases h
      · cases h
        exact .addHeader ..
  · cases h
    exact .logMessage _
  · have h : Mailet.localDeliveryOf params host.mailboxes = .ok mailet := h
    unfold Mailet.localDeliveryOf at h
    split at h
    · cases h
      exact .localDelivery _
    · cases h
      exact .localDelivery _
    · cases h
  · obtain ⟨settings, -, h⟩ := ok_of_bind h
    cases h
    exact .bounce settings

/-- What a table of a list without repetition holds under a name is listed under that name. -/
theorem mem_of_ofList {α : Type} {list : List (String × α)}
    (hdistinct : list.Pairwise fun a b => ¬ compare a.1 b.1 = .eq) {name : String} {value : α}
    (h : (Std.ExtTreeMap.ofList list)[name]? = some value) : (name, value) ∈ list := by
  by_cases hnamed : name ∈ list.map Prod.fst
  · obtain ⟨⟨listed, found⟩, hmem, hlisted⟩ := List.mem_map.1 hnamed
    have hfound : (Std.ExtTreeMap.ofList list)[name]? = some found :=
      Std.ExtTreeMap.getElem?_ofList_of_mem (by simp [← hlisted]) hdistinct hmem
    rw [hfound] at h
    cases h
    rwa [← hlisted]
  · have hnone : (Std.ExtTreeMap.ofList list)[name]? = none :=
      Std.ExtTreeMap.getElem?_ofList_of_contains_eq_false (by simpa using hnamed)
    rw [hnone] at h
    cases h

/-- Every mailet that the standard catalogue builds is built in. -/
theorem standard_isBuiltin {host : Host} {params : Params} {mailet : Mailet}
    (h : (standard host).buildMailet params = .ok mailet) : mailet.IsBuiltin := by
  unfold buildMailet at h
  cases hname : (standard host).mailets[params.component]? with
  | none => simp [hname] at h
  | some build =>
      simp only [hname] at h
      have hdistinct : builtinMailets.Pairwise fun a b => ¬ compare a.1 b.1 = .eq := by
        simp only [builtinMailets, List.pairwise_cons]
        decide
      exact builtinMailets_isBuiltin (mem_of_ofList hdistinct hname) h

end Catalogue

namespace Chain

theorem buildStage_isBuiltin {host : Host} {config : StageConfig} {stage : Stage}
    (h : buildStage (.standard host) config = .ok stage) : stage.mailet.IsBuiltin := by
  obtain ⟨matcher, -, h⟩ := ok_of_bind h
  obtain ⟨mailet, hmailet, h⟩ := ok_of_bind h
  cases h
  exact Catalogue.standard_isBuiltin hmailet

/-- The mailets of a chain that is built from the standard catalogue are built in. -/
theorem ofConfig_isBuiltin {host : Host} {config : ChainConfig} {chain : Chain}
    (h : ofConfig (.standard host) config = .ok chain) :
    ∀ stage ∈ chain.stages, stage.mailet.IsBuiltin := by
  obtain ⟨stages, hstages, h⟩ := ok_of_bind h
  cases h
  exact forall_of_mapM (fun _ _ => buildStage_isBuiltin) hstages

end Chain

end Postroom

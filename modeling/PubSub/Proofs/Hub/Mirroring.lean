import PubSub.Proofs.Hub.Reentry

/-!
# Interests and subscriptions

What a broker wants of its transport is written down twice: as patterns in its interest, which the transport looks at,
and as subscriptions, to which messages are routed. The two are changed one after the other, the patterns by the number
of a subscription and the subscriptions by what they are.

* `Reentry.namesakes`: subscriptions of two brokers with the same number.

Results:

* `Reentry.interest_mirrors`: they say the same whenever anybody looks, and who unsubscribes what is not subscribed here
  changes neither.
-/

namespace PubSub.Reentry

open Hub

variable {η : Type} {stack : List Nat} {h f g : Hub η} {b s : Nat}

/-- A subscription that was taken away belongs to no broker any more, whatever is done then. -/
theorem not_mem_of_unsubscribed (hm : h.Mirrored) (hb : b < h.brokers.size)
    (removed : Act.unsubscribe b s h = (.ok (), f)) (hg : Deeds f g) {c : Nat} (hc : c < g.brokers.size) :
    s ∉ g.members c := by
  have hintact := intact_unsubscribe hb s
  rcases Act.unsubscribe_snd b s h with ⟨-, hrefused⟩ | ⟨-, hs, notices, he⟩
  · rw [removed] at hrefused
    exact absurd rfl hrefused
  · rw [removed] at he hintact
    have hlt := hm.member_lt b hb s hs
    have hwithdrawn : (h.withdrawn b s).Retired s := by
      refine ⟨(subscriptions_size_withdrawn h b s).symm ▸ hlt, ?_⟩
      rw [subscription_withdrawn hlt, if_pos rfl]
    have hretired : f.Retired s := by
      rw [show f = _ from he]
      exact (intact_told _ _ notices).retired s hwithdrawn
    intro hmem
    have hactive := (hg.intact.mirrored (hintact.mirrored hm)).active c hc s hmem
    rw [(hg.intact.retired s hretired).inactive] at hactive
    cases hactive

/-- At every moment, the handlers' included, the interest of an open broker says what its subscriptions say: its
transport wants a channel if a subscription has a pattern that accepts it. The numbers of the subscriptions are
distinct. So a dispatch of one message, which asks the interest, and one until a deadline, which asks the subscriptions,
agree on the messages that somebody wants. To take away a subscription that the broker does not have changes nothing and
is refused, whether it is that of another broker or was taken away before. -/
theorem interest_mirrors (hm : Moment stack h) (hb : h.Attached b) :
    (∀ channel, h.wants (h.lineOf b) channel = true ↔
      ∃ s ∈ h.members b, (h.subscription s).pattern.accepts channel = true) ∧
    ((h.members b).map fun s => (h.subscription s).id).Nodup ∧
    (∀ m : Message, (h.interest (h.broker b).interest).wants m.channel = true ↔ h.matching b m ≠ []) ∧
    (∀ s ∉ h.members b, Act.unsubscribe b s h =
      (.error (.failed (.invalidArgument (.notRegistered (h.subscription s).id))), h)) ∧
    (∀ c < h.brokers.size, c ≠ b → ∀ s ∈ h.members c, s ∉ h.members b) ∧
    ∀ s f, Act.unsubscribe b s h = (.ok (), f) → ∀ g, Deeds f g → ∀ c < g.brokers.size, s ∉ g.members c := by
  have hmirrored := hm.sound.mirrored
  refine ⟨hmirrored.wants_iff hb, hmirrored.ids_nodup b hb.made, fun m => ?_, fun s hs => ?_,
    fun c hc hcb s hs hsb => ?_, fun s f removed g hg c hc => not_mem_of_unsubscribed hmirrored hb.made removed hg hc⟩
  · rw [hmirrored.interest_wants_iff hb, matching, ne_eq, List.filter_eq_nil_iff]
    simp only [not_forall, not_not, exists_prop]
  · exact Act.unsubscribe_stranger hb.isOpen hs
  · exact hcb (hmirrored.member_inj c hc b hb.made s hs hsb)

/-! ## Two brokers -/

/-- Two brokers on buses of their own. -/
def neighbours : Hub Unit :=
  (Act.openAddress (.bus "") 0 {} none
    (Act.openAddress (.bus "") 0 {} none { store := ⟨#[], [], []⟩, desk := () }).2).2

/-- Each of them has got a subscription. Both have the number 1. -/
def namesakes : Hub Unit := (Act.subscribe 1 "c" (Act.subscribe 0 "c" neighbours).2).2

theorem moment_namesakes : Moment [] namesakes := by
  have hmade : Deeds { store := ⟨#[], [], []⟩, desk := () } neighbours :=
    ((Deeds.refl _).step (.openAddress _ (.bus "") 0 {} none)).step (.openAddress _ (.bus "") 0 {} none)
  have hfirst := hmade.step (.subscribe _ 0 (by decide +kernel) "c")
  exact .deeds (.start rfl) (hfirst.step (.subscribe _ 1 (by decide +kernel) "c"))

theorem interest_mirrors_namesakes :
    Moment [] namesakes ∧ namesakes.Attached 0 ∧ (namesakes.subscription 1).id = (namesakes.subscription 0).id ∧
      Act.unsubscribe 0 1 namesakes = (.error (.failed (.invalidArgument (.notRegistered 1))), namesakes) := by
  have hattached : namesakes.Attached 0 := ⟨by decide +kernel, by decide +kernel⟩
  obtain ⟨-, -, -, hrefused, -, -⟩ := interest_mirrors moment_namesakes hattached
  refine ⟨moment_namesakes, hattached, by decide +kernel, ?_⟩
  have hid : (namesakes.subscription 1).id = 1 := by decide +kernel
  rw [hrefused 1 (by decide +kernel), hid]

end PubSub.Reentry

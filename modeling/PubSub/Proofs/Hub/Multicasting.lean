import PubSub.Proofs.Hub.Act
import PubSub.Proofs.Wire.Distinct

/-!
# What a multicast group takes

A message for a group is refused when its channel is empty or too long, or when it takes too many fragments. Nothing is
said of the characters of the channel, so a channel with the zero character in it goes out too, and its datagram can be
that of another message.

Results:

* `Act.sendToGroup_ok_iff`: the messages that are taken.
* `Hub.multicasts_alike_iff`: which two of them go out in the same datagrams.
-/

namespace PubSub

open Wire

variable {η : Type} {h g k : Hub η} {t : Nat} {s : MulticastAddress} {sequence : UInt32} {stopped : Bool}
  {box : Mailbox}

namespace Act

/-- A group takes a message if its channel has a permitted length and the message can be cut. -/
theorem sendToGroup_ok_iff {channel : String} {payload : ByteArray} :
    (sendToGroup t s sequence box channel payload h).1 = .ok () ↔
      (0 < channel.utf8ByteSize ∧ channel.utf8ByteSize ≤ maxGroupChannel) ∧
        ∃ ds, encodeMessage sequence channel payload s.datagramSize = some ds := by
  simp only [sendToGroup, bind_apply, ite_apply, fail_apply]
  split
  · rename_i hlength
    exact iff_of_false (by rintro ⟨⟩) (by omega)
  · rename_i hlength
    cases encodeMessage sequence channel payload s.datagramSize with
    | none => exact iff_of_false (by rintro ⟨⟩) (by rintro ⟨-, ds, ⟨⟩⟩)
    | some ds =>
      refine iff_of_true ?_ ⟨by omega, ds, rfl⟩
      simp only [bind_apply, ite_apply, report_apply, modify_apply]
      split <;> rfl

/-- What is known of a message that a group has taken. -/
theorem encodeMessage_of_send (hline : (h.transport t).line = .multicast s sequence stopped box) {channel : String}
    {payload : ByteArray} (hs : send t channel payload h = (.ok (), g)) :
    channel.utf8ByteSize ≤ maxChannelLength ∧
      ∃ ds, encodeMessage sequence channel payload s.datagramSize = some ds := by
  simp only [send, bind_apply, get_apply, hline, ite_apply] at hs
  cases stopped with
  | true => cases hs
  | false =>
    obtain ⟨⟨-, hlength⟩, hds⟩ := sendToGroup_ok_iff.1 (congrArg Prod.fst hs)
    exact ⟨hlength, hds⟩

end Act

namespace Hub

/-- Two messages that a group would take have datagrams. These are the same only for the same message, or for two that
fit in a short datagram and there are the same bytes; so they tell messages apart whose channels are without the zero
character, and those are the channels that a receiver learns. -/
theorem multicasts_alike_iff (hline : (h.transport t).line = .multicast s sequence stopped box)
    (hlimit : 128 ≤ s.datagramSize) {c d : String} {p q : ByteArray} (hc : Act.send t c p h = (.ok (), g))
    (hd : Act.send t d q h = (.ok (), k)) :
    ∃ ds es, encodeMessage sequence c p s.datagramSize = some ds ∧
      encodeMessage sequence d q s.datagramSize = some es ∧
      (ds = es ↔ (c = d ∧ p = q) ∨ (channelField c ++ p = channelField d ++ q ∧
        shortHeaderSize + (channelField c ++ p).size ≤ s.datagramSize)) ∧
      ('\x00' ∉ c.toList → '\x00' ∉ d.toList → ds = es → c = d ∧ p = q) ∧
      (toldChannel ds = some c ↔ '\x00' ∉ c.toList) := by
  obtain ⟨hlc, ds, hds⟩ := Act.encodeMessage_of_send hline hc
  obtain ⟨hld, es, hes⟩ := Act.encodeMessage_of_send hline hd
  refine ⟨ds, es, hds, hes, encodeMessage_eq_iff hlc hld hlimit hds hes, fun hzc hzd he => ?_,
    toldChannel_eq_iff hlc hlimit hds⟩
  subst he
  exact eq_of_encodeMessage_eq hlc hld hzc hzd hlimit hds hes

/-- A hub with a group that takes datagrams of 128 bytes. -/
def groupHub : Hub Unit where
  store := .start [] []
  transports := #[{
    line := .multicast { group := ⟨0xEFFF4C43⟩, port := 7667, datagramSize := 128, fragmentTimeout := 1000 } 7
      false {}
    interest := 0 }]
  desk := ()

/-- The channels `ab` and `a` are told apart. -/
theorem multicasts_alike_iff_groupHub :
    ∃ ds es, encodeMessage 7 "ab" .empty 128 = some ds ∧ encodeMessage 7 "a" .empty 128 = some es ∧
      ds ≠ es ∧ toldChannel ds = some "ab" := by
  obtain ⟨ds, es, hds, hes, -, hzero, htold⟩ :=
    multicasts_alike_iff (h := groupHub) (t := 0) (c := "ab") (d := "a") (p := .empty) (q := .empty) rfl (by decide)
      rfl rfl
  exact ⟨ds, es, hds, hes, fun he => absurd (hzero (by decide) (by decide) he).1 (by decide), htold.2 (by decide)⟩

/-- The zero character ends the channel `a` where it stands in the channel of another message. -/
theorem multicasts_alike_zero :
    (Act.send 0 "a\x00b" .empty groupHub).1 = .ok () ∧ (Act.send 0 "a" [0x62, 0].toByteArray groupHub).1 = .ok () ∧
      "a\x00b" ≠ "a" ∧
      encodeMessage 7 "a\x00b" .empty 128 = encodeMessage 7 "a" [0x62, 0].toByteArray 128 :=
  ⟨rfl, rfl, by decide, by decide +kernel⟩

end Hub
end PubSub

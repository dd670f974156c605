import PubSub.Wire.Datagram

/-!
# Splitting messages

A message goes out in one short datagram where the datagram size limit allows it, and otherwise in as few
fragments as can carry it: all but the last are filled up to the limit.

* `split`: the datagrams of a message, as values.
* `encodeMessage`: their bytes.
-/

namespace PubSub.Wire

/-- Fragment number `index` of `count`, where fragment 0 carries `first` bytes of the payload and each later one
`most` bytes, the last one what is left. -/
def piece (sequence : UInt32) (channel : String) (payload : ByteArray) (first most count index : Nat) : Fragment :=
  let start := if index = 0 then 0 else first + (index - 1) * most
  let stop := min (first + index * most) payload.size
  { sequence
    size := UInt32.ofNat payload.size
    offset := UInt32.ofNat start
    index := UInt16.ofNat index
    count := UInt16.ofNat count
    channel := if index = 0 then some channel else none
    data := payload.extract start stop }

/-- The datagrams that carry a message, none longer than `limit` bytes; none if a message has too few fragments
or a fragment too few bytes for it. -/
def split (sequence : UInt32) (channel : String) (payload : ByteArray) (limit : Nat) : Option (List Datagram) :=
  let field := channel.utf8ByteSize + 1
  if shortHeaderSize + field + payload.size ≤ limit then some [.short sequence channel payload]
  else
    let most := limit - fragmentHeaderSize
    let first := most - field
    if first = 0 then none
    else
      let count := 1 + (payload.size - first + most - 1) / most
      if maxFragments < count then none
      else if UInt32.size ≤ payload.size then none
      else some ((List.range count).map fun index =>
        .fragment (piece sequence channel payload first most count index))

/-- The bytes of the datagrams that carry a message (`encode_message`). -/
def encodeMessage (sequence : UInt32) (channel : String) (payload : ByteArray) (limit : Nat) :
    Option (List ByteArray) :=
  (split sequence channel payload limit).map fun datagrams => datagrams.map Datagram.encode

end PubSub.Wire

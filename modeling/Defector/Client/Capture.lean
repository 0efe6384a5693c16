import Defector.Server.Work

/-!
# The capture worker: `main`, `browseTB` and a collector sharing `pcapData`

The worker that captures traffic (part_003) has two goroutines and one
buffer, the `bytes.Buffer` `pcapData`. `main` loops on the coordinator's
`Work` call (part_003:123-145). The call marshals the last unit's
`browse.Data`; for each unit it gets, `main` sends on the unbuffered
`sampleChan`, lets `browseTB` make up to `-a` attempts (148-190), and sets
`browse.Data = pcapData.Bytes()`. An attempt reads `pre := pcapData.Len()`,
runs the browser and fails when `pcapData` did not grow.

The collector is one of `collectDNS`, `collectAll` and `collectTCP`
(192-281); `-all` and `-tcp` choose which. A value from `sampleChan` makes
it truncate `pcapData` (`Reset`), make a new writer and write the pcap file
header: statements `main` does not wait for. A packet its filter keeps is
written with `pcapgo`'s `WritePacket`, which makes two `Write`s: the 16-byte
record header, then the data.

`Bytes()` returns a slice of the buffer's array, not a copy, and the `Work`
call that sends it comes later. `Reset` keeps the array, and a `Write` that
fits writes into it; one that does not copies the buffer into a new array,
whose capacity the runtime picks. So `Mem` holds every array `pcapData` has
used, a slice is an array and a length, and a report sends what the array
holds when `Work` marshals it.

`step` is one step of either goroutine, so a run is any interleaving of the
two. Some fields of the state are not the program's: the `Write`s since the
last truncation (`stream`), the truncations and the units signalled so far,
and the reports sent, each with what `pcapData` held at its `Bytes()` call.
The environment's part (what `Work` returns, whether the fresh browser
profile could be copied, which packets arrive, the capacity of a new array)
is the choice of steps. The packets come from a live capture, whose
`CaptureInfo` passes both checks of `WritePacket`.

* `report_capture`: in every run, every report sends what `pcapData` held at
  its `Bytes()` call, a pcap the collector was writing cut at a `Write`, from
  the capture the unit's own signal began or the one before; unless the
  collector truncated between `Bytes()` and the call, and then the start of
  those bytes is overwritten by what it wrote since.
* `stale_report`: from every reachable state in which `main` is about to
  signal a new unit, there is an interleaving in which every attempt fails
  and the new unit's report begins with the whole of the previous unit's
  report. This happens when the collector takes the signal but has not
  truncated yet.
* `capture_accepted_iff`: the coordinator stores a report when it has at
  least `minDataLen` bytes (cmd/server/server.go:159). For every
  `minDataLen` above the 24 bytes of a file header and at most 40, it stores
  a report of this worker exactly when, at `Bytes()`, the collector had
  written the record header of a packet, whether or not its data followed.
-/
namespace Defector.Client.Capture

open Defector.Go

/-! ## Packets and the collectors' filters -/

/-- What the collectors and `pcapgo` read of a captured packet, as gopacket decodes it. -/
structure Packet where
  /-- `packet.ApplicationLayer()` is DNS -/
  appDNS : Bool
  /-- `packet.TransportLayer()` is TCP -/
  transportTCP : Bool
  /-- the source and destination of `packet.NetworkLayer().NetworkFlow()`, if any -/
  flow : Option (Bytes × Bytes)
  /-- the seconds and microseconds of `CaptureInfo.Timestamp`, and `CaptureInfo.Length` -/
  secs : Nat
  usecs : Nat
  length : Nat
  /-- `packet.Data()` -/
  data : Bytes
  deriving DecidableEq, Repr

/-- Which collector `main` starts. -/
inductive Collect where
  | all
  | tcp
  | dns
  deriving DecidableEq, Repr

/-- The collector for the flags `-all` and `-tcp` (part_003:96-105). -/
def collectOf (trafficAll trafficTCP : Bool) : Collect :=
  if trafficAll then .all else if trafficTCP then .tcp else .dns

/-- `serverIP = strings.Split(flag.Arg(0), ":")[0]` (part_003:85). -/
def serverIPOf (addr : Bytes) : Bytes := (addr.splitOn 58).headD []

/-- The worker's flags as the two goroutines use them (part_003:36-54). -/
structure Flags where
  /-- `-a`, the attempts per browse -/
  attempts : Int
  /-- `-snaplen` -/
  snaplen : Int
  /-- the collector `main` started -/
  collect : Collect
  /-- `serverIP` -/
  serverIP : Bytes
  deriving DecidableEq, Repr

/-- Whether the collector writes a packet once it has a writer.
mirrors part_003:208-215 (`collectDNS`), 237-242 (`collectAll`), 264-277 (`collectTCP`) -/
def writes (fl : Flags) (p : Packet) : Bool :=
  match fl.collect with
  | .dns => p.appDNS
  | .all => true
  | .tcp =>
    let (src, dst) := p.flow.getD ([], [])
    p.transportTCP && !contains src fl.serverIP && !contains dst fl.serverIP

/-! ## What `pcapgo` writes -/

/-- `binary.LittleEndian.PutUint32` of `uint32(n)`. -/
def le32 (n : Nat) : Bytes :=
  [n.toUInt8, (n / 256).toUInt8, (n / 65536).toUInt8, (n / 16777216).toUInt8]

/-- `WriteFileHeader(uint32(*snaplen), layers.LinkTypeEthernet)`: the magic number of
microsecond pcaps, version 2.4, zone and accuracy 0, the snaplen, link type 1. -/
def fileHeader (snaplen : Int) : Bytes :=
  le32 0xa1b2c3d4 ++ [2, 0, 4, 0] ++ le32 0 ++ le32 0 ++ le32 (snaplen % 4294967296).toNat ++ le32 1

/-- `writePacketHeader`: the timestamp, `CaptureLength` (the data's length) and `Length`. -/
def recordHeader (p : Packet) : Bytes :=
  le32 p.secs ++ le32 p.usecs ++ le32 p.data.length ++ le32 p.length

/-- One `Write` that `pcapgo` makes into `pcapData`. -/
inductive Chunk where
  | header
  | recHeader (p : Packet)
  | recData (p : Packet)
  deriving DecidableEq, Repr

def Chunk.bytes (fl : Flags) : Chunk → Bytes
  | .header => fileHeader fl.snaplen
  | .recHeader p => recordHeader p
  | .recData p => p.data

/-- The bytes of a sequence of `Write`s. -/
def chunkBytes (fl : Flags) (cs : List Chunk) : Bytes := (cs.map (Chunk.bytes fl)).flatten

/-- The `Write`s of a pcap of the packets `ps`: the file header, then each packet's record
header and data. -/
def pcapChunks (ps : List Packet) : List Chunk :=
  .header :: ps.flatMap fun p => [.recHeader p, .recData p]

/-- What the collector can have written since a truncation, cut at a `Write`: a prefix of
the pcap of packets its filter keeps. -/
def Pcap (fl : Flags) (cs : List Chunk) : Prop :=
  ∃ ps, (∀ p ∈ ps, writes fl p = true) ∧ cs <+: pcapChunks ps

/-! ## `pcapData` and its arrays -/

/-- `pcapData`, a `bytes.Buffer` from which nothing reads (its `off` stays 0), and the arrays
it has used, each as long as its capacity: `buf` is the array its slice points into (none
while nil), `len` the slice's length. -/
structure Mem where
  heap : List Bytes
  buf : Option Nat
  len : Nat
  deriving DecidableEq, Repr

/-- The bytes of a slice of `len` bytes from the start of array `arr`. -/
def Mem.read (m : Mem) (arr : Option Nat) (len : Nat) : Bytes :=
  match arr with
  | none => []
  | some a => ((m.heap[a]?).getD []).take len

/-- What `pcapData.Bytes()` holds. -/
def Mem.contents (m : Mem) : Bytes := m.read m.buf m.len

/-- `bs` copied over `arr` from position `i`. -/
def splice (arr : Bytes) (i : Nat) (bs : Bytes) : Bytes := arr.take i ++ bs ++ arr.drop (i + bs.length)

/-- `grow` when the array has no room: the contents and `bs` in a new array of capacity
`cap`, which the runtime picks and which must hold them. -/
def Mem.grow (cap : Nat) (bs : Bytes) (m : Mem) : Option Mem :=
  if m.len + bs.length ≤ cap then
    some ⟨m.heap ++ [m.contents ++ bs ++ List.replicate (cap - (m.len + bs.length)) 0],
      some m.heap.length, m.len + bs.length⟩
  else none

/-- `pcapData.Write(bs)`: into the array when it has room (`tryGrowByReslice`), into a new
array otherwise. -/
def Mem.write (cap : Nat) (bs : Bytes) (m : Mem) : Option Mem :=
  match m.buf with
  | some a =>
    match m.heap[a]? with
    | some arr =>
      if m.len + bs.length ≤ arr.length then
        some { m with heap := m.heap.set a (splice arr m.len bs), len := m.len + bs.length }
      else m.grow cap bs
    | none => m.grow cap bs
  | none => m.grow cap bs

/-- `pcapData.Reset()`: the length goes to 0 and the array stays. -/
def Mem.reset (m : Mem) : Mem := { m with len := 0 }

/-- `a` written over the start of `b`, as long as `b`. -/
def overlay (a b : Bytes) : Bytes := a.take b.length ++ b.drop a.length

/-! ## The two goroutines -/

/-- Where `main` is (part_003:123-145) and, inside it, `browseTB` (148-190). -/
inductive Main where
  /-- at `client.Work`: reporting `work.Browse`, asking for the next unit -/
  | work
  /-- at `sampleChan <- browse.AllTraffic` -/
  | send
  /-- at the top of attempt `i` -/
  | attempt (i : Nat)
  /-- the browser of attempt `i` runs; `pre` is `pcapData.Len()` before it -/
  | browse (i pre : Nat)
  /-- `browseTB` returned; next is `browse.Data = pcapData.Bytes()` -/
  | store
  deriving DecidableEq, Repr

/-- Where the collector is in its `select` loop (part_003:195-217). -/
inductive Collector where
  /-- waiting in `select` -/
  | select
  /-- took a value from `sampleChan`; next is `pcapData.Reset()` -/
  | reset
  /-- truncated `pcapData`; next are `NewWriter` and `WriteFileHeader` -/
  | header
  /-- `WritePacket` wrote the record header of `p`; next is its data -/
  | data (p : Packet)
  deriving DecidableEq, Repr

/-- What a `Work` call returns to `main`: a unit, "no work" (an empty id), or an error. -/
inductive Reply where
  | unit
  | idle
  | error
  deriving DecidableEq, Repr

/-- `work.Browse.Data`: `len` bytes of array `arr`; and, not the program's, what `pcapData`
held when `Bytes()` made the slice (`taken`), and the truncations and units signalled then. -/
structure Slice where
  arr : Option Nat
  len : Nat
  taken : List Chunk
  capture : Nat
  units : Nat
  deriving DecidableEq, Repr

/-- What one `Work` call sent as `Browse.Data`, as marshalled (`data`); and, not the
program's, the slice's `taken`, `capture` and `units`, and whether the collector truncated
between `Bytes()` and the call (`late`). -/
structure Report where
  data : Bytes
  taken : List Chunk
  capture : Nat
  units : Nat
  late : Bool
  deriving DecidableEq, Repr

/-- Both goroutines, the buffer they share, and `main`'s `work.Browse.Data`. -/
structure Sys where
  main : Main
  mem : Mem
  /-- `w != nil` -/
  writer : Bool
  collector : Collector
  slice : Slice
  /-- the `Write`s since the last truncation -/
  stream : List Chunk
  /-- the truncations of `pcapData` so far -/
  resets : Nat
  /-- the units `main` signalled so far -/
  units : Nat
  /-- what the `Work` calls sent, call by call -/
  reports : List Report
  deriving DecidableEq, Repr

/-- Before the first call: `work.Browse` has an empty id and no data, `pcapData` is nil,
and the collector has no writer. -/
def init : Sys := ⟨.work, ⟨[], none, 0⟩, false, .select, ⟨none, 0, [], 0, 0⟩, [], 0, 0, []⟩

/-- The steps of either goroutine. A `Write` carries the capacity the runtime gives a new
array, should the buffer need one. -/
inductive Act where
  /-- `client.Work` marshals `work.Browse` and returns (part_003:125-135) -/
  | work (r : Reply)
  /-- the send on `sampleChan` meets the collector's receive (138, 197) -/
  | send
  /-- `pcapData.Reset()` (199) -/
  | reset
  /-- `w = pcapgo.NewWriter(&pcapData)` and `w.WriteFileHeader` (200-205) -/
  | header (cap : Nat)
  /-- the collector takes `p` from `pChan`, and writes its record header if it keeps it
  (206-211) -/
  | packet (p : Packet) (cap : Nat)
  /-- `WritePacket` writes the data (211) -/
  | data (cap : Nat)
  /-- the sleep and the fresh `Data` dir; `ok` when both commands succeeded (150-168) -/
  | clean (ok : Bool)
  /-- `tb.Run()` returns, and `pre` is compared with `pcapData.Len()` (169-187) -/
  | run
  /-- `browse.Data = pcapData.Bytes()` (144) -/
  | store
  deriving DecidableEq, Repr

/-- `browseTB`'s loop test `i < *attempts` (part_003:149): attempt `i`, or the return. -/
def enter (attempts : Int) (i : Nat) : Main := if (i : Int) < attempts then .attempt i else .store

/-- The collector's `Write` of `c` into `pcapData`, onto the stream. -/
def Sys.put (fl : Flags) (cap : Nat) (c : Chunk) (s : Sys) : Option Sys :=
  (s.mem.write cap (c.bytes fl)).map fun mem => { s with mem, stream := s.stream ++ [c] }

/-- What a call sends: the slice as it reads when `Work` marshals it. -/
def Sys.report (s : Sys) : Report :=
  ⟨s.mem.read s.slice.arr s.slice.len, s.slice.taken, s.slice.capture, s.slice.units,
    s.resets != s.slice.capture⟩

/-- One step of `main` or of the collector, if that goroutine can take it.
mirrors part_003:123-145 (`main`), 148-190 (`browseTB`), 192-281 (the collectors) -/
def step (fl : Flags) (s : Sys) : Act → Option Sys
  | .work r =>
    if s.main = .work then
      some { s with
        main := if r = .unit then .send else .work
        slice := if r = .error then s.slice else ⟨none, 0, [], s.resets, s.units⟩
        reports := s.reports ++ [s.report] }
    else none
  | .send =>
    if s.main = .send ∧ s.collector = .select then
      some { s with main := enter fl.attempts 0, collector := .reset, units := s.units + 1 }
    else none
  | .reset =>
    if s.collector = .reset then
      some { s with mem := s.mem.reset, stream := [], collector := .header, resets := s.resets + 1 }
    else none
  | .header cap =>
    if s.collector = .header then ({ s with writer := true, collector := .select }).put fl cap .header
    else none
  | .packet p cap =>
    if s.collector = .select then
      if s.writer && writes fl p then ({ s with collector := .data p }).put fl cap (.recHeader p)
      else some s
    else none
  | .data cap =>
    match s.collector with
    | .data p => ({ s with collector := .select }).put fl cap (.recData p)
    | _ => none
  | .clean ok =>
    match s.main with
    | .attempt i =>
      some { s with main := if ok then .browse i s.mem.len else enter fl.attempts (i + 1) }
    | _ => none
  | .run =>
    match s.main with
    | .browse i pre =>
      some { s with main := if pre ≥ s.mem.len then enter fl.attempts (i + 1) else .store }
    | _ => none
  | .store =>
    if s.main = .store then
      some { s with main := .work, slice := ⟨s.mem.buf, s.mem.len, s.stream, s.resets, s.units⟩ }
    else none

/-- The steps in order, as long as each can be taken. -/
def run (fl : Flags) : Sys → List Act → Option Sys
  | s, [] => some s
  | s, a :: acts => (step fl s a).bind fun s' => run fl s' acts

theorem run_append (fl : Flags) (s : Sys) (xs ys : List Act) :
    run fl s (xs ++ ys) = (run fl s xs).bind fun s' => run fl s' ys := by
  induction xs generalizing s with
  | nil => rfl
  | cons a xs ih =>
    show (step fl s a).bind (fun s' => run fl s' (xs ++ ys)) = _
    simp only [run, ih, Option.bind_assoc]

/-! ## Bytes -/

@[simp] theorem length_le32 (n : Nat) : (le32 n).length = 4 := rfl

@[simp] theorem length_fileHeader (snaplen : Int) : (fileHeader snaplen).length = 24 := rfl

@[simp] theorem length_recordHeader (p : Packet) : (recordHeader p).length = 16 := rfl

@[simp] theorem chunkBytes_nil (fl : Flags) : chunkBytes fl [] = [] := rfl

@[simp] theorem chunkBytes_append (fl : Flags) (xs ys : List Chunk) :
    chunkBytes fl (xs ++ ys) = chunkBytes fl xs ++ chunkBytes fl ys := by
  simp [chunkBytes]

theorem chunkBytes_mono (fl : Flags) {xs ys : List Chunk} (h : xs <+: ys) :
    chunkBytes fl xs <+: chunkBytes fl ys := by
  obtain ⟨t, rfl⟩ := h
  rw [chunkBytes_append]
  exact List.prefix_append _ _

theorem getElem?_overlay (a b : Bytes) (i : Nat) :
    (overlay a b)[i]? = if i < b.length then (if i < a.length then a[i]? else b[i]?) else none := by
  unfold overlay
  rw [List.getElem?_append, List.length_take]
  by_cases hi : i < min b.length a.length
  · rw [if_pos hi, List.getElem?_take, if_pos (by omega), if_pos (by omega), if_pos (by omega)]
  · rw [if_neg hi, List.getElem?_drop]
    by_cases hab : a.length ≤ b.length
    · rw [show a.length + (i - min b.length a.length) = i by omega]
      split_ifs <;> first | omega | rfl | exact List.getElem?_eq_none (by omega)
    · rw [List.getElem?_eq_none (by omega), if_neg (by omega)]

@[simp] theorem length_overlay (a b : Bytes) : (overlay a b).length = b.length := by
  simp only [overlay, List.length_append, List.length_take, List.length_drop]
  omega

@[simp] theorem overlay_nil (b : Bytes) : overlay [] b = b := by simp [overlay]

@[simp] theorem overlay_nil_right (a : Bytes) : overlay a [] = [] := by simp [overlay]

theorem getElem?_splice {arr bs : Bytes} {i : Nat} (h : i + bs.length ≤ arr.length) (j : Nat) :
    (splice arr i bs)[j]? = if j < i then arr[j]? else if j < i + bs.length then bs[j - i]? else arr[j]? := by
  unfold splice
  rw [List.getElem?_append, List.getElem?_append]
  simp only [List.length_append, List.length_take, List.getElem?_take, List.getElem?_drop,
    show min i arr.length = i by omega]
  split_ifs <;> first | omega | rfl | congr 1; omega

@[simp] theorem length_splice {arr bs : Bytes} {i : Nat} (h : i + bs.length ≤ arr.length) :
    (splice arr i bs).length = arr.length := by
  simp only [splice, List.length_append, List.length_take, List.length_drop]
  omega

/-- Writing from position `i` leaves the first `i` bytes. -/
theorem take_splice_of_le {arr bs : Bytes} {i L : Nat} (h : i ≤ arr.length) (hL : L ≤ i) :
    (splice arr i bs).take L = arr.take L := by
  rw [splice, List.append_assoc, List.take_append_of_le_length (by simp; omega), List.take_take,
    Nat.min_eq_left hL]

/-- Writing `bs` after `arr`'s first `i` bytes, over an array whose first `|X|` bytes are
its first `i` bytes written over `X`: its first `|X|` bytes become the first `i` bytes and
`bs` written over `X`. -/
theorem take_splice_overlay {arr bs X : Bytes} {i : Nat} (h : i + bs.length ≤ arr.length)
    (hX : arr.take X.length = overlay (arr.take i) X) :
    (splice arr i bs).take X.length = overlay (arr.take i ++ bs) X := by
  have hlen : X.length ≤ arr.length := by
    have := congrArg List.length hX
    simp only [List.length_take, length_overlay] at this
    omega
  refine List.ext_getElem? fun j => ?_
  have hj := congrArg (·[j]?) hX
  simp only [List.getElem?_take, getElem?_overlay, List.length_take, List.length_append,
    getElem?_splice h, List.getElem?_append, show min i arr.length = i by omega] at hj ⊢
  split_ifs at hj ⊢ <;> first | omega | rfl | exact hj

/-! ## `pcapData`'s arrays, `Write` by `Write` -/

/-- A slice of `len` bytes of `arr` lies in a listed array; a nil slice is empty. -/
def Mem.Fits (m : Mem) (arr : Option Nat) (len : Nat) : Prop :=
  match arr with
  | none => len = 0
  | some a => ∃ bytes, m.heap[a]? = some bytes ∧ len ≤ bytes.length

section Mem

variable {m m' : Mem} {cap : Nat} {bs : Bytes}

theorem Mem.length_read {arr : Option Nat} {len : Nat} (h : m.Fits arr len) :
    (m.read arr len).length = len := by
  cases arr with
  | none => exact h.symm
  | some a =>
    obtain ⟨bytes, hb, hle⟩ := h
    simp [Mem.read, hb, hle]

@[simp] theorem Mem.read_zero (m : Mem) (arr : Option Nat) : m.read arr 0 = [] := by
  cases arr <;> rfl

/-- Everything a `Write` can do: write into the buffer's array, or into a new one. -/
theorem Mem.write_cases (h : m.write cap bs = some m') :
    (∃ a arr, m.buf = some a ∧ m.heap[a]? = some arr ∧ m.len + bs.length ≤ arr.length ∧
      m' = { m with heap := m.heap.set a (splice arr m.len bs), len := m.len + bs.length }) ∨
    (m.len + bs.length ≤ cap ∧ m' = ⟨m.heap ++ [m.contents ++ bs ++
      List.replicate (cap - (m.len + bs.length)) 0], some m.heap.length, m.len + bs.length⟩) := by
  have hgrow : m.grow cap bs = some m' → m.len + bs.length ≤ cap ∧ m' = ⟨m.heap ++
      [m.contents ++ bs ++ List.replicate (cap - (m.len + bs.length)) 0], some m.heap.length,
      m.len + bs.length⟩ := fun h => by
    unfold Mem.grow at h
    split at h
    · exact ⟨‹_›, (Option.some.inj h).symm⟩
    · cases h
  unfold Mem.write at h
  split at h
  · rename_i a ha
    split at h
    · rename_i arr harr
      split at h
      · exact .inl ⟨a, arr, ha, harr, ‹_›, (Option.some.inj h).symm⟩
      · exact .inr (hgrow h)
    · exact .inr (hgrow h)
  · exact .inr (hgrow h)

theorem getElem?_heap_append {heap : List Bytes} {a : Nat} {bytes : Bytes}
    (h : heap[a]? = some bytes) (x : Bytes) : (heap ++ [x])[a]? = some bytes := by
  rw [List.getElem?_append_left (List.getElem?_eq_some_iff.1 h).1, h]

/-- A `Write` keeps every array, and its length. -/
theorem Mem.fits_write (h : m.write cap bs = some m') {arr : Option Nat} {len : Nat}
    (hf : m.Fits arr len) : m'.Fits arr len := by
  cases arr with
  | none => exact hf
  | some b =>
    obtain ⟨bytes, hb, hle⟩ := hf
    rcases Mem.write_cases h with ⟨a, arrA, -, ha, hfit, rfl⟩ | ⟨-, rfl⟩
    · by_cases hab : a = b
      · subst hab
        rw [ha] at hb; cases hb
        exact ⟨_, List.getElem?_set_self (List.getElem?_eq_some_iff.1 ha).1, by
          rw [length_splice hfit]; exact hle⟩
      · exact ⟨bytes, by rw [List.getElem?_set_ne hab, hb], hle⟩
    · exact ⟨bytes, getElem?_heap_append hb _, hle⟩

theorem take_splice_self {arr bs : Bytes} {i : Nat} (h : i + bs.length ≤ arr.length) :
    (splice arr i bs).take (i + bs.length) = arr.take i ++ bs := by
  rw [splice, List.append_assoc, ← List.append_assoc, List.take_append_eq_append_take]
  simp [show i ≤ arr.length by omega]

theorem Mem.contents_of_buf {a : Nat} {arr : Bytes} (hbuf : m.buf = some a)
    (ha : m.heap[a]? = some arr) : m.contents = arr.take m.len := by
  simp [Mem.contents, Mem.read, hbuf, ha]

/-- A `Write` appends its bytes to what `Bytes()` holds, and the buffer still fits. -/
theorem Mem.contents_write (h : m.write cap bs = some m') (hf : m.Fits m.buf m.len) :
    m'.contents = m.contents ++ bs ∧ m'.Fits m'.buf m'.len := by
  rcases Mem.write_cases h with ⟨a, arr, hbuf, ha, hfit, rfl⟩ | ⟨hcap, rfl⟩
  · have hset : (m.heap.set a (splice arr m.len bs))[a]? = some (splice arr m.len bs) :=
      List.getElem?_set_self (List.getElem?_eq_some_iff.1 ha).1
    refine ⟨?_, ?_⟩ <;> simp only [Mem.Fits, Mem.contents, Mem.read, hbuf, hset, ha, Option.getD_some]
    · exact take_splice_self hfit
    · exact ⟨_, rfl, by rw [length_splice hfit]; exact hfit⟩
  · have hlen : m.contents.length = m.len := Mem.length_read hf
    have hnew := List.getElem?_concat_length m.heap
      (m.contents ++ bs ++ List.replicate (cap - (m.len + bs.length)) 0)
    refine ⟨?_, ⟨_, hnew, by simp [hlen]⟩⟩
    show ((_ : Option Bytes).getD []).take (m.len + bs.length) = _
    rw [hnew, Option.getD_some, List.append_assoc, List.take_append_eq_append_take]
    simp [hlen]

/-- A `Write` leaves a slice of another array, or within what `Bytes()` held, as it reads. -/
theorem Mem.read_write (h : m.write cap bs = some m') {arr : Option Nat} {len : Nat}
    (hf : m.Fits arr len) (hle : arr = m.buf → len ≤ m.len) : m'.read arr len = m.read arr len := by
  cases arr with
  | none => rfl
  | some b =>
    obtain ⟨bytes, hb, -⟩ := hf
    rcases Mem.write_cases h with ⟨a, arrA, hbuf, ha, hfit, rfl⟩ | ⟨-, rfl⟩
    · by_cases hab : a = b
      · subst hab
        rw [ha] at hb; cases hb
        simp only [Mem.read, List.getElem?_set_self (List.getElem?_eq_some_iff.1 ha).1, ha,
          Option.getD_some]
        exact take_splice_of_le (by omega) (hle hbuf.symm)
      · simp only [Mem.read, List.getElem?_set_ne hab]
    · simp only [Mem.read, getElem?_heap_append hb, hb]

/-- A slice of the buffer's array whose bytes are what `Bytes()` holds written over `X`:
after a `Write` into that array they are the new contents written over `X`; after one into
a new array the slice stays as it reads. -/
theorem Mem.read_write_buf (h : m.write cap bs = some m') (hf : m.Fits m.buf m.len) {a : Nat}
    {X : Bytes} (hbuf : m.buf = some a) (hX : m.read (some a) X.length = overlay m.contents X) :
    (m'.buf = some a ∧ m'.read (some a) X.length = overlay m'.contents X) ∨
    (m'.buf ≠ some a ∧ m'.read (some a) X.length = m.read (some a) X.length) := by
  have hc := (Mem.contents_write h hf).1
  rcases Mem.write_cases h with ⟨a', arr, hbuf', ha, hfit, rfl⟩ | ⟨-, rfl⟩
  · rw [hbuf] at hbuf'; cases hbuf'
    have hset := List.getElem?_set_self (a := splice arr m.len bs) (List.getElem?_eq_some_iff.1 ha).1
    rw [Mem.contents_of_buf hbuf ha] at hX hc
    simp only [Mem.read, ha, hset, Option.getD_some] at hX ⊢
    exact .inl ⟨hbuf, hc ▸ take_splice_overlay hfit hX⟩
  · obtain ⟨bytes, hb, -⟩ : ∃ bytes, m.heap[a]? = some bytes ∧ m.len ≤ bytes.length := by
      simpa only [Mem.Fits, hbuf] using hf
    refine .inr ⟨fun he => ?_, by simp only [Mem.read, getElem?_heap_append hb, hb]⟩
    have := (List.getElem?_eq_some_iff.1 hb).1
    simp only [Option.some.injEq] at he
    omega

theorem Mem.lt_of_fits {a len : Nat} (h : m.Fits (some a) len) : a < m.heap.length := by
  obtain ⟨bytes, hb, -⟩ := h
  exact (List.getElem?_eq_some_iff.1 hb).1

/-- A `Write` keeps the buffer's array or moves it to a new one. -/
theorem Mem.buf_write (h : m.write cap bs = some m') :
    m'.buf = m.buf ∨ m'.buf = some m.heap.length := by
  rcases Mem.write_cases h with ⟨-, -, -, -, -, rfl⟩ | ⟨-, rfl⟩
  · exact .inl rfl
  · exact .inr rfl

@[simp] theorem Mem.read_reset (m : Mem) (arr : Option Nat) (len : Nat) :
    m.reset.read arr len = m.read arr len := rfl

theorem Mem.fits_reset_buf (h : m.Fits m.buf m.len) : m.reset.Fits m.reset.buf m.reset.len := by
  show m.reset.Fits m.buf 0
  unfold Mem.Fits at h ⊢
  cases hb : m.buf with
  | none => rfl
  | some a =>
    rw [hb] at h
    obtain ⟨bytes, h1, -⟩ := h
    exact ⟨bytes, h1, Nat.zero_le _⟩

@[simp] theorem Mem.contents_reset (m : Mem) : m.reset.contents = [] := Mem.read_zero _ _

end Mem

/-! ## The pcaps the collector writes -/

theorem Pcap.nil (fl : Flags) : Pcap fl [] := ⟨[], by simp, List.nil_prefix⟩

theorem pcapChunks_concat (ps : List Packet) (p : Packet) :
    pcapChunks (ps ++ [p]) = pcapChunks ps ++ [.recHeader p, .recData p] := by
  simp [pcapChunks, List.flatMap_append]

/-- What the stream is, by where the collector is: empty without a writer and right after
a truncation; otherwise the pcap of some packets the filter keeps, and, while `WritePacket`
is between its two `Write`s, the record header of one more. -/
def Shaped (fl : Flags) (writer : Bool) (c : Collector) (cs : List Chunk) : Prop :=
  match c with
  | .header => cs = []
  | .data p => writer = true ∧ writes fl p = true ∧
      ∃ ps, (∀ q ∈ ps, writes fl q = true) ∧ cs = pcapChunks ps ++ [.recHeader p]
  | .select | .reset =>
      if writer then ∃ ps, (∀ q ∈ ps, writes fl q = true) ∧ cs = pcapChunks ps else cs = []

/-- `WriteFileHeader` right after a truncation. -/
theorem shaped_header (fl : Flags) : Shaped fl true .select ([] ++ [.header]) := ⟨[], by simp, rfl⟩

/-- The record header of a packet the filter keeps. -/
theorem Shaped.packet {fl : Flags} {cs : List Chunk} {p : Packet} (h : Shaped fl true .select cs)
    (hp : writes fl p = true) : Shaped fl true (.data p) (cs ++ [.recHeader p]) := by
  obtain ⟨ps, hps, rfl⟩ := (show ∃ ps, _ from h)
  exact ⟨rfl, hp, ps, hps, rfl⟩

/-- The data after the record header. -/
theorem Shaped.data {fl : Flags} {w : Bool} {cs : List Chunk} {p : Packet}
    (h : Shaped fl w (.data p) cs) : Shaped fl w .select (cs ++ [.recData p]) := by
  obtain ⟨rfl, hp, ps, hps, rfl⟩ := h
  refine ⟨ps ++ [p], fun q hq => ?_, by rw [pcapChunks_concat]; simp⟩
  rcases List.mem_append.1 hq with hq | hq
  · exact hps q hq
  · rw [List.mem_singleton.1 hq]; exact hp

theorem Shaped.pcap {fl : Flags} {w : Bool} {c : Collector} {cs : List Chunk}
    (h : Shaped fl w c cs) : Pcap fl cs := by
  cases c with
  | header => exact h ▸ Pcap.nil fl
  | data p =>
    have hs := h.data
    rw [h.1] at hs
    obtain ⟨ps, hps, he⟩ := (show ∃ ps, _ from hs)
    exact ⟨ps, hps, he ▸ List.prefix_append _ _⟩
  | select | reset =>
    cases w
    · exact (show cs = [] from h) ▸ Pcap.nil fl
    · obtain ⟨ps, hps, rfl⟩ := (show ∃ ps, _ from h)
      exact ⟨ps, hps, List.prefix_refl _⟩

/-- A pcap cut at a `Write` is empty, the 24-byte file header alone, or that and at least
one 16-byte record header. -/
theorem Pcap.length {fl : Flags} {cs : List Chunk} (h : Pcap fl cs) :
    ((cs = [] ∨ cs = [.header]) ∧ (chunkBytes fl cs).length ≤ 24) ∨
      (40 ≤ (chunkBytes fl cs).length ∧ ∃ p, .recHeader p ∈ cs) := by
  obtain ⟨ps, -, hpre⟩ := h
  match cs, hpre with
  | [], _ => exact .inl ⟨.inl rfl, by simp⟩
  | [c], hpre =>
    obtain ⟨rfl, -⟩ := List.cons_prefix_cons.1 hpre
    exact .inl ⟨.inr rfl, by simp [chunkBytes, Chunk.bytes]⟩
  | c :: d :: rest, hpre =>
    obtain ⟨rfl, hd⟩ := List.cons_prefix_cons.1 hpre
    match ps, hd with
    | [], hd => simp [pcapChunks] at hd
    | p :: ps, hd =>
      obtain ⟨rfl, -⟩ := List.cons_prefix_cons.1 (by simpa [pcapChunks] using hd)
      refine .inr ⟨?_, p, by simp⟩
      simp only [chunkBytes, List.map_cons, List.flatten_cons, List.length_append, Chunk.bytes,
        length_fileHeader, length_recordHeader]
      omega

/-! ## The invariant of every run -/

/-- The collector took a signal it has not truncated for yet. -/
def Collector.pending : Collector → Nat
  | .reset => 1
  | _ => 0

/-- What a report can be: `taken` is a pcap the collector was writing, cut at a `Write`; the
bytes sent are those unless the collector truncated after `Bytes()`, and in any case are
`taken` with the start of such a pcap written over it; `taken` comes from the capture the
unit's own signal began (`capture = units`) or, when the collector had not truncated for it
yet, from the one before, and is empty before the first truncation. -/
def Sound (fl : Flags) (r : Report) : Prop :=
  Pcap fl r.taken ∧ (r.late = false → r.data = chunkBytes fl r.taken) ∧
  (∃ w, Pcap fl w ∧ r.data = overlay (chunkBytes fl w) (chunkBytes fl r.taken)) ∧
  r.capture ≤ r.units ∧ r.units ≤ r.capture + 1 ∧ (r.capture = 0 → r.taken = [])

structure Inv (fl : Flags) (s : Sys) : Prop where
  fits : s.mem.Fits s.mem.buf s.mem.len
  /-- `pcapData` holds the stream's bytes -/
  contents : s.mem.contents = chunkBytes fl s.stream
  shaped : Shaped fl s.writer s.collector s.stream
  /-- before the first truncation the collector has no writer -/
  fresh : s.resets = 0 → s.writer = false ∧ (s.collector = .select ∨ s.collector = .reset)
  /-- every signal was truncated for, or is pending -/
  signals : s.resets + s.collector.pending = s.units
  sliceFits : s.mem.Fits s.slice.arr s.slice.len
  sliceLen : s.slice.len = (chunkBytes fl s.slice.taken).length
  slicePcap : Pcap fl s.slice.taken
  sliceUnits : s.slice.capture ≤ s.slice.units ∧ s.slice.units ≤ s.slice.capture + 1 ∧
    (s.slice.capture = 0 → s.slice.taken = [])
  sliceCapture : s.slice.capture ≤ s.resets
  /-- a slice `Bytes()` made is `main`'s until the next unit -/
  sliceLive : s.slice.taken ≠ [] → s.main = .work ∧ s.slice.units = s.units
  /-- with no truncation since `Bytes()`, the slice reads what it held -/
  sliceNow : s.resets = s.slice.capture →
    s.mem.read s.slice.arr s.slice.len = chunkBytes fl s.slice.taken ∧ s.slice.taken <+: s.stream
  /-- after one, what the collector wrote since is written over it, for as long as the
  buffer keeps the array -/
  sliceLate : s.resets = s.slice.capture + 1 →
    (s.slice.arr = s.mem.buf →
      s.mem.read s.slice.arr s.slice.len = overlay s.mem.contents (chunkBytes fl s.slice.taken)) ∧
    ∃ w, Pcap fl w ∧
      s.mem.read s.slice.arr s.slice.len = overlay (chunkBytes fl w) (chunkBytes fl s.slice.taken)
  captured : ∀ r ∈ s.reports, r.capture ≤ s.resets
  /-- since the last report, if no truncation came, `pcapData` has only grown -/
  last : ∀ r ∈ s.reports.getLast?, r.capture = s.resets → r.late = false ∧ r.taken <+: s.stream
  reports : ∀ r ∈ s.reports, Sound fl r

theorem inv_init (fl : Flags) : Inv fl init where
  fits := rfl
  contents := rfl
  shaped := rfl
  fresh _ := ⟨rfl, .inl rfl⟩
  signals := rfl
  sliceFits := rfl
  sliceLen := rfl
  slicePcap := Pcap.nil fl
  sliceUnits := ⟨le_refl _, Nat.le_succ _, fun _ => rfl⟩
  sliceCapture := le_refl _
  sliceLive h := absurd rfl h
  sliceNow _ := ⟨rfl, List.nil_prefix⟩
  sliceLate h := absurd h (by decide)
  captured _ h := by cases h
  last _ h := by cases h
  reports _ h := by cases h

section Steps

variable {fl : Flags} {s : Sys}

theorem Collector.pending_le (c : Collector) : c.pending ≤ 1 := by
  cases c <;> simp [Collector.pending]

/-- A slice `Bytes()` made sees at most one truncation before the next unit. -/
theorem Inv.resets_le (hi : Inv fl s) (h : s.slice.taken ≠ []) : s.resets ≤ s.slice.capture + 1 := by
  have := hi.signals; have := hi.sliceUnits.2.1; have := (hi.sliceLive h).2
  omega

/-- What `main` sends is sound. -/
theorem Inv.sound_report (hi : Inv fl s) : Sound fl s.report := by
  refine ⟨hi.slicePcap, fun hl => (hi.sliceNow (by simpa [Sys.report] using hl)).1, ?_,
    hi.sliceUnits⟩
  by_cases hnow : s.resets = s.slice.capture
  · exact ⟨[], Pcap.nil fl, by simp [Sys.report, (hi.sliceNow hnow).1]⟩
  by_cases ht : s.slice.taken = []
  · refine ⟨[], Pcap.nil fl, ?_⟩
    simp [Sys.report, ht, hi.sliceLen]
  · exact (hi.sliceLate (by have := hi.resets_le ht; have := hi.sliceCapture; omega)).2

/-- A `Work` call adds what it sends to the reports. -/
theorem Inv.push (hi : Inv fl s) : Inv fl { s with reports := s.reports ++ [s.report] } :=
  { hi with
    captured := fun r hr => (List.mem_append.1 hr).elim (hi.captured r) fun hr => by
      obtain rfl := List.mem_singleton.1 hr
      exact hi.sliceCapture
    last := fun r hr hc => by
      obtain rfl : s.report = r := by simpa using hr
      have hc : s.resets = s.slice.capture := hc.symm
      exact ⟨by simp [Sys.report, hc], (hi.sliceNow hc).2⟩
    reports := fun r hr => (List.mem_append.1 hr).elim (hi.reports r) fun hr =>
      List.mem_singleton.1 hr ▸ hi.sound_report }

/-- After "no work" or a unit, `work.Browse` is the reply, with no data. -/
theorem Inv.empty_slice (hi : Inv fl s) (m : Main) :
    Inv fl { s with main := m, slice := ⟨none, 0, [], s.resets, s.units⟩ } :=
  { hi with
    sliceFits := rfl
    sliceLen := rfl
    slicePcap := Pcap.nil fl
    sliceUnits := by
      have := hi.signals; have := s.collector.pending_le
      exact ⟨by simp only; omega, by simp only; omega, fun _ => rfl⟩
    sliceCapture := le_refl _
    sliceLive := fun h => absurd rfl h
    sliceNow := fun _ => ⟨rfl, List.nil_prefix⟩
    sliceLate := fun h => absurd h (by simp) }

theorem inv_work (hi : Inv fl s) (hm : s.main = .work) (r : Reply) :
    Inv fl { s with
      main := if r = .unit then .send else .work
      slice := if r = .error then s.slice else ⟨none, 0, [], s.resets, s.units⟩
      reports := s.reports ++ [s.report] } := by
  cases r with
  | unit => exact hi.push.empty_slice .send
  | idle => exact hi.push.empty_slice .work
  | error =>
    obtain ⟨_, _, _, _, _, _, _, _, _⟩ := s
    cases hm
    exact hi.push

theorem Inv.stream_nil (hi : Inv fl s) (h0 : s.resets = 0) : s.stream = [] := by
  have hs := hi.shaped
  obtain ⟨hw, hc | hc⟩ := hi.fresh h0 <;> simpa [Shaped, hc, hw] using hs

theorem Inv.send (hi : Inv fl s) (hm : s.main = .send) (hc : s.collector = .select) :
    Inv fl { s with main := enter fl.attempts 0, collector := .reset, units := s.units + 1 } :=
  have hnil : s.slice.taken = [] := by
    by_contra h; cases hm.symm.trans (hi.sliceLive h).1
  { hi with
    shaped := by have := hi.shaped; rw [hc] at this; exact this
    fresh := fun h => ⟨(hi.fresh h).1, .inr rfl⟩
    signals := by have := hi.signals; rw [hc] at this; simp only [Collector.pending] at this ⊢; omega
    sliceLive := fun h => absurd hnil h }

theorem Inv.reset (hi : Inv fl s) (hc : s.collector = .reset) :
    Inv fl { s with mem := s.mem.reset, stream := [], collector := .header, resets := s.resets + 1 } :=
  have hcap := hi.sliceCapture
  { hi with
    fits := Mem.fits_reset_buf hi.fits
    contents := Mem.contents_reset _
    shaped := rfl
    fresh := fun h => absurd h (Nat.succ_ne_zero _)
    signals := by have := hi.signals; rw [hc] at this; simp only [Collector.pending] at this ⊢; omega
    sliceFits := hi.sliceFits
    sliceCapture := Nat.le_succ_of_le hcap
    sliceNow := fun h => absurd h (by simp only; omega)
    sliceLate := fun h => by
      have hnow := (hi.sliceNow (by simp only at h; omega)).1
      refine ⟨fun _ => ?_, [], Pcap.nil fl, ?_⟩ <;>
        simp only [Mem.read_reset, hnow, Mem.contents_reset, overlay_nil, chunkBytes_nil]
    captured := fun r hr => Nat.le_succ_of_le (hi.captured r hr)
    last := fun r hr h => by
      have := hi.captured r (List.mem_of_getLast?_eq_some hr)
      simp only at h; omega }

/-- A step of `main` outside `Work` changes only where `main` is. -/
theorem Inv.main (hi : Inv fl s) (hm : s.main ≠ .work) (m : Main) : Inv fl { s with main := m } :=
  { hi with sliceLive := fun h => absurd (hi.sliceLive h).1 hm }

theorem Inv.store (hi : Inv fl s) :
    Inv fl { s with main := .work, slice := ⟨s.mem.buf, s.mem.len, s.stream, s.resets, s.units⟩ } :=
  have hlen : s.mem.contents.length = s.mem.len := Mem.length_read hi.fits
  { hi with
    sliceFits := hi.fits
    sliceLen := by rw [← hi.contents, hlen]
    slicePcap := hi.shaped.pcap
    sliceUnits := by
      have := hi.signals; have := s.collector.pending_le
      exact ⟨by simp only; omega, by simp only; omega, hi.stream_nil⟩
    sliceCapture := le_refl _
    sliceLive := fun _ => ⟨rfl, rfl⟩
    sliceNow := fun _ => ⟨hi.contents, List.prefix_refl _⟩
    sliceLate := fun h => absurd h (by simp) }

/-- A `Write` of `c` by the collector, which then is at `col'` with writer `w'`: the
invariant holds when the stream with `c` has the shape `col'` asks for, no truncation is
pending or made, and a truncation came before. -/
theorem Inv.put (hi : Inv fl s) {cap : Nat} {c : Chunk} {w' : Bool} {col' : Collector}
    {s' : Sys} (h : ({ s with writer := w', collector := col' }).put fl cap c = some s')
    (hshape : Shaped fl w' col' (s.stream ++ [c])) (hpend : col'.pending = s.collector.pending)
    (hfresh : s.resets ≠ 0) : Inv fl s' := by
  obtain ⟨mem', hw, rfl⟩ := Option.map_eq_some'.1 h
  dsimp only at hw
  obtain ⟨hc, hf⟩ := Mem.contents_write hw hi.fits
  have hc' : mem'.contents = chunkBytes fl (s.stream ++ [c]) := by
    rw [hc, hi.contents]; simp [chunkBytes, Chunk.bytes]
  have hlen : s.mem.contents.length = s.mem.len := Mem.length_read hi.fits
  have hX : s.slice.len = (chunkBytes fl s.slice.taken).length := hi.sliceLen
  have hread := Mem.read_write hw hi.sliceFits
  refine { hi with
    fits := hf
    contents := hc'
    shaped := hshape
    fresh := fun h0 => absurd h0 hfresh
    signals := by rw [hpend]; exact hi.signals
    sliceFits := Mem.fits_write hw hi.sliceFits
    sliceNow := fun h0 => ?_
    sliceLate := fun h1 => ?_
    last := fun r hr h0 => ?_ }
  · obtain ⟨h1, h2⟩ := hi.sliceNow h0
    refine ⟨?_, h2.trans (List.prefix_append _ _)⟩
    rw [hread fun _ => ?_, h1]
    rw [hX, ← hlen, hi.contents]
    exact (chunkBytes_mono fl h2).length_le
  · obtain ⟨hbuf, w, hw', hrw⟩ := hi.sliceLate h1
    dsimp only
    by_cases harr : s.slice.arr = s.mem.buf
    · cases ha : s.slice.arr with
      | none =>
        have h0 : s.slice.len = 0 := by simpa [Mem.Fits, ha] using hi.sliceFits
        have hnil : chunkBytes fl s.slice.taken = [] := List.length_eq_zero.1 (hX ▸ h0)
        exact ⟨fun _ => by simp [Mem.read, hnil], [], Pcap.nil fl, by simp [Mem.read, hnil]⟩
      | some a =>
        rw [ha] at harr hbuf
        have hXr : s.mem.read (some a) (chunkBytes fl s.slice.taken).length =
            overlay s.mem.contents (chunkBytes fl s.slice.taken) := hX ▸ hbuf harr
        rcases Mem.read_write_buf hw hi.fits harr.symm hXr with ⟨-, hr'⟩ | ⟨hb', hr'⟩
        · exact ⟨fun _ => by rw [hX, hr'], s.stream ++ [c], hshape.pcap, by rw [hX, hr', hc']⟩
        · exact ⟨fun he => absurd he.symm hb', s.stream, hi.shaped.pcap,
            by rw [hX, hr', hXr, hi.contents]⟩
    · refine ⟨fun he => ?_, w, hw', by rw [hread fun he => absurd he harr, hrw]⟩
      rcases Mem.buf_write hw with hb | hb
      · exact absurd (he.trans hb) harr
      · have hfits := hi.sliceFits
        rw [he, hb] at hfits
        exact absurd (Mem.lt_of_fits hfits) (Nat.lt_irrefl _)
  · obtain ⟨h1, h2⟩ := hi.last r hr h0
    exact ⟨h1, h2.trans (List.prefix_append _ _)⟩

end Steps

/-- Every step keeps the invariant. -/
theorem inv_step {fl : Flags} {s s' : Sys} {a : Act} (hi : Inv fl s) (h : step fl s a = some s') :
    Inv fl s' := by
  have hnz : s.collector ≠ .select → s.collector ≠ .reset → s.resets ≠ 0 := fun h1 h2 h0 =>
    ((hi.fresh h0).2.elim h1 h2)
  cases a with
  | work r => simp only [step] at h; split at h <;> cases h; exact inv_work hi ‹_› r
  | send =>
    simp only [step] at h; split at h <;> cases h
    exact hi.send ‹_ ∧ _›.1 ‹_ ∧ _›.2
  | reset => simp only [step] at h; split at h <;> cases h; exact hi.reset ‹_›
  | header cap =>
    simp only [step] at h
    split at h
    · rename_i hc
      have hs : s.stream = [] := by have := hi.shaped; rwa [hc] at this
      exact hi.put h (hs ▸ shaped_header fl) (by rw [hc]; rfl) (hnz (by simp [hc]) (by simp [hc]))
    · cases h
  | packet p cap =>
    simp only [step] at h
    split at h
    · rename_i hc
      split at h
      · rename_i hk
        obtain ⟨hw, hp⟩ := Bool.and_eq_true_iff.1 hk
        have hs := hi.shaped
        rw [hc, hw] at hs
        exact hi.put h (hw ▸ hs.packet hp) (by rw [hc]; rfl)
          fun h0 => by simp [(hi.fresh h0).1] at hw
      · cases h; exact hi
    · cases h
  | data cap =>
    simp only [step] at h
    split at h
    · rename_i p hc
      have hs := hi.shaped
      rw [hc] at hs
      exact hi.put h hs.data (by rw [hc]; rfl) (hnz (by simp [hc]) (by simp [hc]))
    · cases h
  | clean ok =>
    simp only [step] at h; split at h <;> cases h
    exact hi.main (by simp [*]) _
  | run =>
    simp only [step] at h; split at h <;> cases h
    exact hi.main (by simp [*]) _
  | store => simp only [step] at h; split at h <;> cases h; exact hi.store

theorem inv_run {fl : Flags} {s s' : Sys} {acts : List Act} (hi : Inv fl s)
    (h : run fl s acts = some s') : Inv fl s' := by
  induction acts generalizing s with
  | nil => cases h; exact hi
  | cons a acts ih =>
    obtain ⟨t, ht, h⟩ := Option.bind_eq_some.1 h
    exact ih (inv_step hi ht) h

/-! ## What a report sends -/

theorem report_capture (fl : Flags) (acts : List Act) (s : Sys) (h : run fl init acts = some s) :
    ∀ r ∈ s.reports,
      Pcap fl r.taken ∧ (r.late = false → r.data = chunkBytes fl r.taken) ∧
      (∃ w, Pcap fl w ∧ r.data = overlay (chunkBytes fl w) (chunkBytes fl r.taken)) ∧
      r.capture ≤ r.units ∧ r.units ≤ r.capture + 1 ∧ (r.capture = 0 → r.taken = []) :=
  (inv_run (inv_init fl) h).reports

/-- A DNS packet with four bytes of data, and one with one byte. -/
def demoPacket : Packet := ⟨true, false, none, 1, 0, 4, [1, 2, 3, 4]⟩

def demoPacket2 : Packet := ⟨true, false, none, 2, 0, 1, [5]⟩

/-- The defaults: five attempts, a snaplen of 65536, `collectDNS`. -/
def demoFlags : Flags := ⟨5, 65536, .dns, []⟩

/-- One unit browsed with one DNS packet and reported, and the next unit given. Every `Write`
fits in a 64-byte array. -/
def demoActs : List Act :=
  [.work .unit, .send, .reset, .header 64, .clean true, .packet demoPacket 64, .data 64, .run,
    .store, .work .unit]

def demoSys : Sys := (run demoFlags init demoActs).getD init

/-- The next unit's attempts all fail before the collector takes the signal; it truncates
and writes a shorter capture into the same array before `Work` marshals the slice. -/
def demoLate : List Act :=
  .send :: (List.replicate 5 [.clean true, .run]).flatten ++
    [.store, .reset, .header 64, .packet demoPacket2 64, .data 64, .work .unit]

def demoLateSys : Sys := (run demoFlags demoSys demoLate).getD init

/-- The second unit's report: the 44 bytes `Bytes()` took, with the 41 bytes of the new
capture written over their start. -/
theorem report_capture_demo :
    run demoFlags init (demoActs ++ demoLate) = some demoLateSys ∧
      demoLateSys.reports.getLast? = some
        ⟨overlay (chunkBytes demoFlags (pcapChunks [demoPacket2]))
            (chunkBytes demoFlags (pcapChunks [demoPacket])),
          pcapChunks [demoPacket], 1, 2, true⟩ ∧
      ∀ r ∈ demoLateSys.reports,
        Pcap demoFlags r.taken ∧ (r.late = false → r.data = chunkBytes demoFlags r.taken) ∧
        (∃ w, Pcap demoFlags w ∧ r.data = overlay (chunkBytes demoFlags w) (chunkBytes demoFlags r.taken)) ∧
        r.capture ≤ r.units ∧ r.units ≤ r.capture + 1 ∧ (r.capture = 0 → r.taken = []) :=
  ⟨by rw [run_append]; rfl, rfl, report_capture demoFlags (demoActs ++ demoLate) demoLateSys
    (by rw [run_append]; rfl)⟩

/-! ## The collector can lag behind `main` -/

theorem enter_of_lt {attempts : Int} {i : Nat} (h : i < attempts.toNat) :
    enter attempts i = .attempt i := by
  simp only [enter, if_pos (show (i : Int) < attempts by omega)]

theorem enter_toNat (attempts : Int) : enter attempts attempts.toNat = .store := by
  simp only [enter, if_neg (show ¬((attempts.toNat : Int) < attempts) by omega)]

/-- Attempts whose browser runs while `pcapData` stays as it is all fail, and
`browseTB` returns. -/
theorem run_failed_attempts (fl : Flags) : ∀ (m i : Nat) (t : Sys),
    i + m = fl.attempts.toNat → t.main = enter fl.attempts i →
    run fl t (List.replicate m [.clean true, .run]).flatten = some { t with main := .store }
  | 0, i, t, hm, ht => by
    obtain rfl : i = fl.attempts.toNat := hm
    rw [enter_toNat] at ht
    cases t; cases ht; rfl
  | m + 1, i, t, hm, ht => by
    have hrun : run fl t [.clean true, .run] = some { t with main := enter fl.attempts (i + 1) } := by
      simp [run, step, ht, enter_of_lt (show i < fl.attempts.toNat by omega)]
    rw [List.replicate_succ, List.flatten_cons, run_append, hrun]
    exact run_failed_attempts fl m (i + 1) _ (by omega) rfl

theorem stale_report (fl : Flags) (acts : List Act) (s : Sys) (h : run fl init acts = some s)
    (hsend : s.main = .send) (hselect : s.collector = .select) (r : Report)
    (hlast : s.reports.getLast? = some r) (hown : r.capture = s.resets) :
    ∃ s', run fl s (.send :: (List.replicate fl.attempts.toNat [.clean true, .run]).flatten ++
        [.store, .work .unit]) = some s' ∧
      ∃ r', s'.reports = s.reports ++ [r'] ∧ r'.capture = r.capture ∧ r.data <+: r'.data := by
  have hi := inv_run (inv_init fl) h
  obtain ⟨hlate, htaken⟩ := hi.last r hlast hown
  /- The collector takes the signal and goes no further; `main` runs every attempt, stores
  the slice and reports it at once. -/
  let t : Sys := { s with main := enter fl.attempts 0, collector := .reset, units := s.units + 1 }
  let r' : Report := ⟨s.mem.contents, s.stream, s.resets, s.units + 1, false⟩
  have hsent : step fl s .send = some t := by simp [step, hsend, hselect, t]
  let t' : Sys := { t with
    main := .send
    slice := ⟨none, 0, [], s.resets, s.units + 1⟩
    reports := s.reports ++ [r'] }
  have htail : run fl { t with main := .store } [.store, .work .unit] = some t' := by
    simp [run, step, t, t', r', Sys.report, Mem.contents]
  refine ⟨t', ?_, r', rfl, hown.symm, ?_⟩
  · show (step fl s .send).bind (fun s' => run fl s' (_ ++ _)) = _
    rw [hsent, Option.some_bind, run_append, run_failed_attempts fl _ 0 t (Nat.zero_add _) rfl,
      Option.some_bind, htail]
  · rw [(hi.reports r (List.mem_of_getLast?_eq_some hlast)).2.1 hlate]
    show _ <+: s.mem.contents
    rw [hi.contents]
    exact chunkBytes_mono fl htaken

theorem stale_report_demo :
    run demoFlags init demoActs = some demoSys ∧ demoSys.main = .send ∧
      demoSys.collector = .select ∧
      demoSys.reports.getLast? = some ⟨chunkBytes demoFlags (pcapChunks [demoPacket]),
        pcapChunks [demoPacket], 1, 1, false⟩ ∧ 1 = demoSys.resets ∧
      ∃ s', run demoFlags demoSys (.send :: (List.replicate demoFlags.attempts.toNat
          [.clean true, .run]).flatten ++ [.store, .work .unit]) = some s' ∧
        ∃ r', s'.reports = demoSys.reports ++ [r'] ∧ r'.capture = 1 ∧
          chunkBytes demoFlags (pcapChunks [demoPacket]) <+: r'.data :=
  ⟨rfl, rfl, rfl, rfl, rfl, stale_report demoFlags demoActs demoSys rfl rfl rfl _ rfl rfl⟩

/-! ## What the coordinator keeps -/

theorem capture_accepted_iff (fl : Flags) (acts : List Act) (s : Sys)
    (h : run fl init acts = some s) (cfg : Server.Config) (h24 : 24 < cfg.minDataLen)
    (h40 : cfg.minDataLen ≤ 40) (r : Report) (hr : r ∈ s.reports)
    (b : Server.Browse) (hb : b.data.length = r.data.length) :
    Server.accepted cfg b ↔ ∃ p, .recHeader p ∈ r.taken := by
  obtain ⟨hpcap, -, ⟨w, -, hdata⟩, -⟩ := (inv_run (inv_init fl) h).reports r hr
  have hlen : b.data.length = (chunkBytes fl r.taken).length := by rw [hb, hdata, length_overlay]
  simp only [Server.accepted, hlen, ge_iff_le]
  rcases hpcap.length with ⟨hcs, hl⟩ | ⟨hl, hp⟩
  · refine ⟨fun _ => by omega, fun ⟨p, hp⟩ => ?_⟩
    rcases hcs with hcs | hcs <;> simp [hcs] at hp
  · exact ⟨fun _ => hp, fun _ => by omega⟩

/-- `Bytes()` falls between the two `Write`s of `WritePacket`: the report is the file
header and a record header, 40 bytes with no packet data, and the coordinator stores it. -/
def demoSplit : List Act :=
  [.work .unit, .send, .reset, .header 64, .clean true, .packet demoPacket 64, .run, .store,
    .work .unit]

def demoSplitSys : Sys := (run demoFlags init demoSplit).getD init

theorem capture_accepted_iff_demo :
    run demoFlags init demoSplit = some demoSplitSys ∧ 24 < ({} : Server.Config).minDataLen ∧
      ({} : Server.Config).minDataLen ≤ 40 ∧
      demoSplitSys.reports.getLast? = some ⟨chunkBytes demoFlags [.header, .recHeader demoPacket],
        [.header, .recHeader demoPacket], 1, 1, false⟩ ∧
      (chunkBytes demoFlags [.header, .recHeader demoPacket]).length = 40 ∧
      (Server.accepted {} { data := chunkBytes demoFlags [.header, .recHeader demoPacket] } ↔
        ∃ p, .recHeader p ∈ [Chunk.header, .recHeader demoPacket]) :=
  ⟨rfl, by decide, by decide, rfl, rfl,
    capture_accepted_iff demoFlags demoSplit demoSplitSys rfl {} (by decide) (by decide) _
      (List.mem_of_getLast?_eq_some rfl) _ rfl⟩

end Defector.Client.Capture

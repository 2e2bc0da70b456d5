import Mathlib.Tactic

/-!
# Events of the scheduler

* `EventInterest`: a set of interests, and its translation from and to the bits of epoll;
* `ScheduledEvent`: the handle of a registration, a slot and the generation of the slot;
* `encodeHandle`, `decodeHandle`: the handle as the user data of an epoll entry, and back.
-/

namespace SuplLpp.Sched

/-- A set of interests, one bit each. -/
structure EventInterest where
  bits : UInt32
  deriving DecidableEq

namespace EventInterest

def None : EventInterest := ⟨0⟩
def Read : EventInterest := ⟨1⟩
def Write : EventInterest := ⟨2⟩
def Error : EventInterest := ⟨4⟩
def Hangup : EventInterest := ⟨8⟩

/-- `operator|`. -/
def or (a b : EventInterest) : EventInterest := ⟨a.bits ||| b.bits⟩

/-- `operator&`: do the two sets meet? -/
def meets (a b : EventInterest) : Bool := a.bits &&& b.bits != 0

end EventInterest

/-! ### Interests as bits of epoll -/

def EPOLLIN : UInt32 := 0x001
def EPOLLOUT : UInt32 := 0x004
def EPOLLERR : UInt32 := 0x008
def EPOLLHUP : UInt32 := 0x010
def EPOLLRDHUP : UInt32 := 0x2000

def interestsToEpoll (i : EventInterest) : UInt32 :=
  (if i.meets .Read then EPOLLIN else 0) |||
    (if i.meets .Write then EPOLLOUT else 0) |||
    (if i.meets .Error then EPOLLERR else 0) |||
    (if i.meets .Hangup then EPOLLHUP ||| EPOLLRDHUP else 0)

def epollToInterests (e : UInt32) : EventInterest :=
  ((((EventInterest.None.or (if e &&& EPOLLIN ≠ 0 then .Read else .None)).or
    (if e &&& EPOLLOUT ≠ 0 then .Write else .None)).or
    (if e &&& EPOLLERR ≠ 0 then .Error else .None)).or
    (if e &&& (EPOLLHUP ||| EPOLLRDHUP) ≠ 0 then .Hangup else .None))

/-- `struct epoll_event`: ready bits, and the user data of the entry. -/
structure EpollEvent where
  events : UInt32
  data : UInt64

/-! ### Handles -/

/-- The handle that `register_fd` hands out. -/
structure ScheduledEvent where
  index : UInt16
  generation : UInt16
  deriving DecidableEq

namespace ScheduledEvent

/-- The default handle; its index is `UINT16_MAX`. -/
def invalid : ScheduledEvent := ⟨0xFFFF, 0⟩

def valid (e : ScheduledEvent) : Bool := e.index != 0xFFFF

end ScheduledEvent

def encodeHandle (h : ScheduledEvent) : UInt64 :=
  h.generation.toUInt64 <<< 16 ||| h.index.toUInt64

def decodeHandle (v : UInt64) : ScheduledEvent := ⟨v.toUInt16, (v >>> 16).toUInt16⟩

/-- The descriptor read from the same word: its low 32 bits, as an `int`. -/
def lowWord (v : UInt64) : UInt32 := v.toUInt32

theorem toNat_encodeHandle (h : ScheduledEvent) :
    (encodeHandle h).toNat = h.generation.toNat * 65536 + h.index.toNat := by
  have hg : h.generation.toNat < 65536 := h.generation.toNat_lt
  have hi : h.index.toNat < 65536 := h.index.toNat_lt
  have hor := Nat.two_pow_add_eq_or_of_lt (i := 16) (b := h.index.toNat) hi h.generation.toNat
  have h16 : UInt64.toNat 16 % 64 = 16 := rfl
  rw [encodeHandle, UInt64.toNat_or, UInt64.toNat_shiftLeft, UInt16.toNat_toUInt64,
    UInt16.toNat_toUInt64, h16, Nat.shiftLeft_eq, Nat.mod_eq_of_lt (by omega), Nat.mul_comm,
    ← hor]

/-- Decoding gives back the handle that was encoded. -/
theorem decodeHandle_encodeHandle (h : ScheduledEvent) :
    decodeHandle (encodeHandle h) = h := by
  have hg : h.generation.toNat < 65536 := h.generation.toNat_lt
  have hi : h.index.toNat < 65536 := h.index.toNat_lt
  obtain ⟨index, generation⟩ := h
  simp only [decodeHandle, ScheduledEvent.mk.injEq]
  constructor <;> apply UInt16.toNat_inj.1
  · rw [UInt64.toNat_toUInt16, toNat_encodeHandle]
    simp only at hg hi ⊢
    omega
  · have h16 : UInt64.toNat 16 % 64 = 16 := rfl
    rw [UInt64.toNat_toUInt16, UInt64.toNat_shiftRight, toNat_encodeHandle, h16,
      Nat.shiftRight_eq_div_pow]
    simp only at hg hi ⊢
    omega

/-- The low word of an encoded handle is the handle itself: nothing is cut off. -/
theorem toNat_lowWord_encodeHandle (h : ScheduledEvent) :
    (lowWord (encodeHandle h)).toNat = h.generation.toNat * 65536 + h.index.toNat := by
  have hg : h.generation.toNat < 65536 := h.generation.toNat_lt
  have hi : h.index.toNat < 65536 := h.index.toNat_lt
  rw [lowWord, UInt64.toNat_toUInt32, toNat_encodeHandle]
  omega

end SuplLpp.Sched

import Membercoin.Basic

/-!
# Connection limits at start-up (`AppInit2`)

Before it binds, `AppInit2` sizes the connection limits to the file descriptors it can get. It
asks `RaiseFileDescriptorLimit` for `nMaxConnections + MIN_CORE_FILEDESCRIPTORS + nBind`
descriptors, fails when fewer than `MIN_CORE_FILEDESCRIPTORS` are available, and otherwise cuts
`nMaxConnections` to what is left after the core descriptors and the bound sockets, and
`nMaxOutConnections` to `nMaxConnections`.

The values of `-maxconnections` and `-maxoutconnections` are given as `int`s, and
`RaiseFileDescriptorLimit` is a parameter. The request is an `int` sum: a `-maxconnections`
within `150 + nBind` of `INT_MAX` overflows it.

* `connectionLimits_undefined_iff`: the request overflows exactly then.
* `connectionLimits_eq_ok`: otherwise both limits are cut to the descriptors that are left;
  `nMaxConnections` is negative exactly when fewer than `150 + nBind` descriptors are available.
-/

namespace Membercoin

/-- `MIN_CORE_FILEDESCRIPTORS`, outside Windows. -/
def MIN_CORE_FILEDESCRIPTORS : CInt := ⟨150, by norm_num⟩

/-- The limits `AppInit2` sets: `nMaxConnections` and `nMaxOutConnections`. -/
structure ConnectionLimits where
  nMaxConnections : CInt
  nMaxOutConnections : CInt

/-- `nBind = std::max((int)mapArgs.count("-bind") + (int)mapArgs.count("-whitebind"), 1)`; each
count of the map of arguments is `0` or `1`. -/
def AppInit2.nBind (hasBind hasWhitebind : Bool) : CInt :=
  ⟨max ((if hasBind then 1 else 0) + (if hasWhitebind then 1 else 0)) 1, by split_ifs <;> norm_num⟩

/-- The step of `AppInit2` that makes sure enough file descriptors are available, up to the
limits it sets. -/
def AppInit2.connectionLimits (RaiseFileDescriptorLimit : CInt → CInt)
    (hasBind hasWhitebind : Bool) (nUserMaxConnections nUserMaxOutConnections : CInt) :
    Result ConnectionLimits := do
  let nBind := AppInit2.nBind hasBind hasWhitebind
  let nMaxConnections := if nUserMaxConnections.val < 0 then SInt.zero else nUserMaxConnections
  let nMinFD ← do
    let s ← nMaxConnections.add MIN_CORE_FILEDESCRIPTORS
    s.add nBind
  let nFD := RaiseFileDescriptorLimit nMinFD
  if nFD.val < MIN_CORE_FILEDESCRIPTORS.val then .thrown "Not enough file descriptors available."
  else do
    let nAvailable ← do
      let s ← nFD.sub MIN_CORE_FILEDESCRIPTORS
      s.sub nBind
    let nMaxConnections := SInt.min nAvailable nMaxConnections
    let nMaxOutConnections :=
      if nUserMaxOutConnections.val < 0 then SInt.zero else nUserMaxOutConnections
    let nMaxOutConnections :=
      if nMaxConnections.val < nMaxOutConnections.val then nMaxConnections else nMaxOutConnections
    pure ⟨nMaxConnections, nMaxOutConnections⟩

/-- Two `int` additions of non-negative values overflow exactly when their sum does. -/
theorem SInt.add_add_bind {w : Nat} {β : Type} {a b c : SInt w} (ha : 0 ≤ a.val) (hb : 0 ≤ b.val)
    (hc : 0 ≤ c.val) (k : SInt w → Result β) :
    (a.add b >>= fun s => s.add c >>= k) = (SInt.ofInt? (a.val + b.val + c.val) >>= k) := by
  by_cases h : a.val + b.val < 2 ^ (w - 1)
  · rw [SInt.add, SInt.ofInt?_ok ⟨by omega, h⟩, Result.ok_bind]
    rfl
  · rw [SInt.add, SInt.ofInt?_undefined (by omega), Result.undefined_bind,
      SInt.ofInt?_undefined (by omega), Result.undefined_bind]

/-- `std::max(x, 0)`, as `AppInit2` writes it for both limits. -/
theorem SInt.max_zero_val {w : Nat} (x : SInt w) :
    (if x.val < 0 then SInt.zero else x).val = max x.val 0 := by
  split <;> simp <;> omega

/-- The cut of `nMaxOutConnections` to `nMaxConnections`. -/
theorem SInt.ite_lt_val {w : Nat} (a b : SInt w) :
    (if a.val < b.val then a else b).val = Min.min a.val b.val := by
  split <;> omega

section Limits

variable (RaiseFileDescriptorLimit : CInt → CInt) (hasBind hasWhitebind : Bool)
  (nUserMaxConnections nUserMaxOutConnections : CInt)

theorem AppInit2.nBind_val : 1 ≤ (AppInit2.nBind hasBind hasWhitebind).val ∧
    (AppInit2.nBind hasBind hasWhitebind).val ≤ 2 := by
  simp only [AppInit2.nBind]
  split_ifs <;> norm_num

/-- Once `nFD ≥ MIN_CORE_FILEDESCRIPTORS`, `nFD - MIN_CORE_FILEDESCRIPTORS - nBind` fits. -/
theorem AppInit2.available_eq {nFD : CInt} (hFD : ¬nFD.val < MIN_CORE_FILEDESCRIPTORS.val) :
    ∃ nAvailable : CInt,
      nAvailable.val = nFD.val - 150 - (AppInit2.nBind hasBind hasWhitebind).val ∧
      ∀ {β : Type} (k : CInt → Result β), (nFD.sub MIN_CORE_FILEDESCRIPTORS >>= fun s =>
        s.sub (AppInit2.nBind hasBind hasWhitebind) >>= k) = k nAvailable := by
  have hb := AppInit2.nBind_val hasBind hasWhitebind
  have hr := nFD.range
  simp only [MIN_CORE_FILEDESCRIPTORS] at hFD
  have h₁ : -2 ^ (32 - 1) ≤ nFD.val - MIN_CORE_FILEDESCRIPTORS.val ∧
      nFD.val - MIN_CORE_FILEDESCRIPTORS.val < 2 ^ (32 - 1) := by
    simp only [MIN_CORE_FILEDESCRIPTORS]; omega
  have h₂ : -2 ^ (32 - 1) ≤ nFD.val - 150 - (AppInit2.nBind hasBind hasWhitebind).val ∧
      nFD.val - 150 - (AppInit2.nBind hasBind hasWhitebind).val < 2 ^ (32 - 1) := by
    omega
  refine ⟨⟨_, h₂⟩, rfl, fun k => ?_⟩
  rw [SInt.sub, SInt.ofInt?_ok h₁, Result.ok_bind]
  show SInt.ofInt? (nFD.val - 150 - _) >>= k = _
  rw [SInt.ofInt?_ok h₂, Result.ok_bind]

/-- The three terms of the request are non-negative. -/
theorem AppInit2.request_eq {β : Type} {m : CInt} (hm : 0 ≤ m.val) (k : CInt → Result β) :
    (m.add MIN_CORE_FILEDESCRIPTORS >>= fun s => s.add (AppInit2.nBind hasBind hasWhitebind) >>= k) =
      (SInt.ofInt? (m.val + 150 + (AppInit2.nBind hasBind hasWhitebind).val) >>= k) :=
  SInt.add_add_bind hm (by simp [MIN_CORE_FILEDESCRIPTORS])
    (by have := AppInit2.nBind_val hasBind hasWhitebind; omega) k

/-- The request `nMaxConnections + MIN_CORE_FILEDESCRIPTORS + nBind` overflows `int` exactly when
`-maxconnections` is within `150 + nBind` of `INT_MAX`; nothing else can overflow. -/
theorem connectionLimits_undefined_iff :
    AppInit2.connectionLimits RaiseFileDescriptorLimit hasBind hasWhitebind nUserMaxConnections
        nUserMaxOutConnections = .undefined ↔
      2 ^ 31 ≤ nUserMaxConnections.val + 150 + (AppInit2.nBind hasBind hasWhitebind).val := by
  have hb := AppInit2.nBind_val hasBind hasWhitebind
  have hu := nUserMaxConnections.range
  simp only [AppInit2.connectionLimits]
  generalize hm : (if nUserMaxConnections.val < 0 then SInt.zero else nUserMaxConnections) = m
  have hmv : m.val = max nUserMaxConnections.val 0 := hm ▸ SInt.max_zero_val _
  rw [AppInit2.request_eq hasBind hasWhitebind (show 0 ≤ m.val by omega)]
  by_cases hfit : m.val + 150 + (AppInit2.nBind hasBind hasWhitebind).val < 2 ^ 31
  · have hrange : -2 ^ (32 - 1) ≤ m.val + 150 + (AppInit2.nBind hasBind hasWhitebind).val ∧
        m.val + 150 + (AppInit2.nBind hasBind hasWhitebind).val < 2 ^ (32 - 1) := by
      omega
    rw [SInt.ofInt?_ok hrange, Result.ok_bind]
    have hno : ¬2 ^ 31 ≤ nUserMaxConnections.val + 150 + (AppInit2.nBind hasBind hasWhitebind).val := by
      omega
    simp only [hno, iff_false]
    split
    · exact Result.noConfusion
    · rename_i hFD
      obtain ⟨nAvailable, -, hav⟩ := AppInit2.available_eq hasBind hasWhitebind hFD
      rw [hav]
      exact Result.noConfusion
  · have hrange : ¬(-2 ^ (32 - 1) ≤ m.val + 150 + (AppInit2.nBind hasBind hasWhitebind).val ∧
        m.val + 150 + (AppInit2.nBind hasBind hasWhitebind).val < 2 ^ (32 - 1)) := by
      omega
    rw [SInt.ofInt?_undefined hrange, Result.undefined_bind]
    simp only [true_iff]
    omega

/-- When the request fits, `AppInit2` either fails for want of descriptors or cuts
`nMaxConnections` to the descriptors left after the core ones and the bound sockets, and
`nMaxOutConnections` to `nMaxConnections`. With fewer than `150 + nBind` descriptors the cut makes
both negative. -/
theorem connectionLimits_eq_ok {limits : ConnectionLimits}
    (h : AppInit2.connectionLimits RaiseFileDescriptorLimit hasBind hasWhitebind
      nUserMaxConnections nUserMaxOutConnections = .ok limits) :
    ∃ nMinFD : CInt, nMinFD.val =
        max nUserMaxConnections.val 0 + 150 + (AppInit2.nBind hasBind hasWhitebind).val ∧
      150 ≤ (RaiseFileDescriptorLimit nMinFD).val ∧
      limits.nMaxConnections.val = min ((RaiseFileDescriptorLimit nMinFD).val - 150 -
        (AppInit2.nBind hasBind hasWhitebind).val) (max nUserMaxConnections.val 0) ∧
      limits.nMaxOutConnections.val =
        min limits.nMaxConnections.val (max nUserMaxOutConnections.val 0) := by
  have hb := AppInit2.nBind_val hasBind hasWhitebind
  simp only [AppInit2.connectionLimits] at h
  generalize hm : (if nUserMaxConnections.val < 0 then SInt.zero else nUserMaxConnections) = m at h
  have hmv : m.val = max nUserMaxConnections.val 0 := hm ▸ SInt.max_zero_val _
  rw [AppInit2.request_eq hasBind hasWhitebind (show 0 ≤ m.val by omega)] at h
  obtain ⟨nMinFD, hmin, h⟩ := Result.bind_eq_ok.mp h
  rw [SInt.ofInt?_eq_ok_iff] at hmin
  split at h
  · cases h
  rename_i hFD
  obtain ⟨nAvailable, havv, hav⟩ := AppInit2.available_eq hasBind hasWhitebind hFD
  rw [hav] at h
  cases h
  refine ⟨nMinFD, by rw [hmin, hmv], by simpa [MIN_CORE_FILEDESCRIPTORS] using hFD, ?_, ?_⟩
  · rw [SInt.min_val, havv, hmv]
  · rw [SInt.ite_lt_val, SInt.min_val, SInt.max_zero_val]

/-- With `150` descriptors and one bound socket, `nMaxConnections` and `nMaxOutConnections` are
cut to `-1`. -/
example : AppInit2.connectionLimits (fun _ => ⟨150, by norm_num⟩) false false ⟨8, by norm_num⟩
    ⟨8, by norm_num⟩ = .ok ⟨⟨-1, by norm_num⟩, ⟨-1, by norm_num⟩⟩ := by
  rfl

end Limits

end Membercoin

import GodotAtlas.Proofs.Text.Decoding
import GodotAtlas.Report.Scan

namespace GodotAtlas.Format

open Files Text

-- The start of a content up to and with its `n`-th newline, or all of it if it has fewer.
structure Region (n : Nat) (bytes region : List UInt8) : Prop where
  start : region <+: bytes
  ends : region = bytes ∧ region.count 0x0a < n ∨
    region.count 0x0a = n ∧ ∀ b ∈ region.getLast?, b = 0x0a

namespace Region

variable {n : Nat} {bytes line rest region region' : List UInt8}

instance : Decidable (Region n bytes region) :=
  decidable_of_iff (region <+: bytes ∧ (region = bytes ∧ region.count 0x0a < n ∨
    region.count 0x0a = n ∧ ∀ b ∈ region.getLast?, b = 0x0a))
    ⟨fun ⟨hs, he⟩ => ⟨hs, he⟩, fun ⟨hs, he⟩ => ⟨hs, he⟩⟩

-- A region is not a part of another one, since what is more in that one would hold a newline.
theorem eq_of_prefix (h : Region n bytes region) (h' : Region n bytes region')
    (hp : region <+: region') : region = region' := by
  rcases h.ends with ⟨he, _⟩ | ⟨hc, _⟩
  case inl =>
    have hl : region'.length ≤ region.length := he ▸ h'.start.length_le
    exact hp.eq_of_length_le hl
  case inr =>
    obtain ⟨more, rfl⟩ := hp
    rw [List.self_eq_append_right]
    by_contra hm
    have hn : 0x0a ∉ more := by
      rw [← List.count_eq_zero]
      have hle : (region ++ more).count 0x0a ≤ n := by
        rcases h'.ends with ⟨_, hlt⟩ | ⟨heq, _⟩
        · exact hlt.le
        · exact heq.le
      rw [List.count_append] at hle
      omega
    rcases h'.ends with ⟨_, hlt⟩ | ⟨_, hl⟩
    case inl =>
      rw [List.count_append] at hlt
      omega
    case inr =>
      have ⟨b, hb⟩ := Option.ne_none_iff_exists'.mp (List.getLast?_eq_none_iff.not.mpr hm)
      have he : b = 0x0a := hl b (by simp [hb])
      exact hn (he ▸ List.mem_of_getLast? hb)

theorem unique (h : Region n bytes region) (h' : Region n bytes region') : region = region' := by
  rcases List.prefix_or_prefix_of_prefix h.start h'.start with hp | hp
  case inl => exact h.eq_of_prefix h' hp
  case inr => exact (h'.eq_of_prefix h hp).symm

theorem zero : Region 0 bytes [] where
  start := List.nil_prefix
  ends := .inr ⟨rfl, by simp⟩

theorem of_not_mem (h : 0x0a ∉ bytes) : Region (n + 1) bytes bytes where
  start := List.prefix_rfl
  ends := .inl ⟨rfl, by simp [List.count_eq_zero.mpr h]⟩

theorem append_line (h : Region n rest region) (hn : 0x0a ∉ line) :
    Region (n + 1) (line ++ 0x0a :: rest) (line ++ 0x0a :: region) where
  start := by simpa using h.start
  ends := by
    have hc : (line ++ 0x0a :: region).count 0x0a = region.count 0x0a + 1 := by
      simp [List.count_eq_zero.mpr hn]
    rw [hc]
    rcases h.ends with ⟨he, hlt⟩ | ⟨he, hl⟩
    case inl => exact .inl ⟨by rw [he], by omega⟩
    case inr =>
      refine .inr ⟨by rw [he], ?_⟩
      cases hr : region.getLast? <;> simp_all [List.getLast?_append, List.getLast?_cons]

end Region

namespace Resource

variable {bytes line rest : List UInt8}

theorem byteLines_append (h : 0x0a ∉ line) :
    byteLines (line ++ 0x0a :: rest) = (line ++ [0x0a]) :: byteLines rest := by
  induction line
  case nil => simp [byteLines]
  case cons b line hi =>
    simp only [List.mem_cons, not_or] at h
    simp [byteLines, Ne.symm h.left, hi h.right]

theorem flatten_byteLines : (byteLines bytes).flatten = bytes := by
  induction bytes
  case nil => rfl
  case cons b bytes hi =>
    rw [byteLines]
    split_ifs
    case pos => simp [hi]
    case neg => cases hl : byteLines bytes <;> simp_all

theorem byteLines_of_not_mem (h : 0x0a ∉ bytes) : (byteLines bytes).length ≤ 1 := by
  induction bytes
  case nil => simp [byteLines]
  case cons b bytes hi =>
    simp only [List.mem_cons, not_or] at h
    rw [byteLines, if_neg (Ne.symm h.left)]
    cases hl : byteLines bytes <;> simp_all

theorem region_take_byteLines (n : Nat) (bytes : List UInt8) :
    Region n bytes ((byteLines bytes).take n).flatten ∧
      ((byteLines bytes).take n).flatMap decodeLossy =
        decodeLossy ((byteLines bytes).take n).flatten := by
  induction n generalizing bytes
  case zero => exact ⟨Region.zero, rfl⟩
  case succ n hi =>
    by_cases hm : 0x0a ∈ bytes
    case pos =>
      obtain ⟨line, rest, rfl, hn⟩ := List.eq_append_cons_of_mem hm
      obtain ⟨hr, hd⟩ := hi rest
      have hf : (line ++ [0x0a]) ++ ((byteLines rest).take n).flatten =
          line ++ 0x0a :: ((byteLines rest).take n).flatten := by simp
      rw [byteLines_append hn, List.take_succ_cons, List.flatten_cons, List.flatMap_cons, hd, hf,
        decodeLossy_newline, decodeLossy_newline]
      exact ⟨hr.append_line hn, by simp [decodeLossy, decodeFrom]⟩
    case neg =>
      have hl := byteLines_of_not_mem hm
      rw [List.take_of_length_le (by omega), flatten_byteLines]
      refine ⟨Region.of_not_mem hm, ?_⟩
      have hf : (byteLines bytes).flatten = bytes := flatten_byteLines
      generalize byteLines bytes = ls at hl hf ⊢
      rcases ls with _ | ⟨line, _ | _⟩
      case nil => rw [← hf]; rfl
      case cons.nil => rw [← hf]; simp
      case cons.cons => simp at hl

theorem headerText_of_region {region : List UInt8} (h : Region headerLines bytes region) :
    headerText bytes = decodeLossy region := by
  have ⟨hr, hd⟩ := region_take_byteLines headerLines bytes
  rw [headerText, hd, h.unique hr]

end Resource

open Report in
-- A resource file is read as the text of its region, which is there for every content, and so files
-- with one region are read alike.
theorem resource_of_header_region (bytes : List UInt8) : (∃! region, Region 31 bytes region) ∧
    ∀ region, Region 31 bytes region →
      ((Resource.byteLines bytes).take 31).flatMap decodeLossy = decodeLossy region ∧
      Resource.ofBytes bytes = .ofText (decodeLossy region) ∧
      (∀ (fs : FileSystem) (path : String), fs.read path = .ok bytes →
        resourceAt fs path = .ofText (decodeLossy region)) ∧
      ∀ (fs fs' : FileSystem) (path path' : String) (bytes' : List UInt8),
        fs.read path = .ok bytes → fs'.read path' = .ok bytes' → Region 31 bytes' region →
          resourceAt fs path = resourceAt fs' path' := by
  have hb {bs region : List UInt8} (h : Region 31 bs region) :
      Resource.ofBytes bs = .ofText (decodeLossy region) := by
    rw [Resource.ofBytes, Resource.headerText_of_region h]
  have hf {fs : FileSystem} {path : String} {bs region : List UInt8} (h : Region 31 bs region)
      (hr : fs.read path = .ok bs) : resourceAt fs path = .ofText (decodeLossy region) := by
    rw [resourceAt, hr, ← hb h]
  refine ⟨⟨_, (Resource.region_take_byteLines 31 bytes).left, fun _ h => h.unique ?_⟩, ?_⟩
  · exact (Resource.region_take_byteLines 31 bytes).left
  · intro region h
    refine ⟨Resource.headerText_of_region h, hb h, fun _ _ => hf h, ?_⟩
    intro fs fs' path path' bytes' hr hr' h'
    rw [hf h hr, hf h' hr']

def brokenRegion : List UInt8 :=
  encodeUtf8 "[gd_resource type=\"Curve\"]\nscript_class=\"".toList ++
    [0xe2, 0x82, 0x0a] ++ encodeUtf8 ['"'] ++ List.replicate 29 0x0a

def brokenBytes : List UInt8 :=
  brokenRegion ++ encodeUtf8 "script = ExtResource(\"1\")".toList

def brokenFiles : FileSystem where
  root := .dir [("a.tres", .file brokenBytes), ("b.tres", .file brokenRegion)]

theorem resource_of_header_region_broken :
    Region 31 brokenBytes brokenRegion ∧ Region 31 brokenRegion brokenRegion ∧
    Report.resourceAt brokenFiles "a.tres" = Report.resourceAt brokenFiles "b.tres" ∧
    Resource.ofBytes brokenBytes =
      { type := some "Curve", className := some "\ufffd\n", script := none } := by
  have h : Region 31 brokenBytes brokenRegion := by decide +kernel
  have h' : Region 31 brokenRegion brokenRegion := by decide +kernel
  have ha : brokenFiles.read "a.tres" = .ok brokenBytes := by rfl
  have hb : brokenFiles.read "b.tres" = .ok brokenRegion := by rfl
  have ⟨_, he⟩ := resource_of_header_region brokenBytes
  have ⟨_, ho, _, hs⟩ := he brokenRegion h
  exact ⟨h, h', hs _ _ _ _ _ ha hb h', ho.trans (by decide +kernel)⟩

end GodotAtlas.Format

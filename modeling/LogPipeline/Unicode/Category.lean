import LogPipeline.Unicode.Ranges

/-!
# General categories

The general category of every code point, under its two-letter name in the standard. The table lists
where a run of equal categories begins; where upper and lower case take turns, one run stands for
all of them.
-/

namespace LogPipeline.Unicode

inductive Category where
  /-- Upper-case letter -/
  | lu
  /-- Lower-case letter -/
  | ll
  /-- Title-case letter -/
  | lt
  /-- Modifier letter -/
  | lm
  /-- Other letter -/
  | lo
  /-- Nonspacing mark -/
  | mn
  /-- Spacing mark -/
  | mc
  /-- Enclosing mark -/
  | me
  /-- Decimal digit -/
  | nd
  /-- Letter number -/
  | nl
  /-- Other number -/
  | no
  /-- Connector -/
  | pc
  /-- Dash -/
  | pd
  /-- Opening bracket -/
  | ps
  /-- Closing bracket -/
  | pe
  /-- Opening quote -/
  | pi
  /-- Closing quote -/
  | pf
  /-- Other punctuation -/
  | po
  /-- Mathematical symbol -/
  | sm
  /-- Currency sign -/
  | sc
  /-- Modifier symbol -/
  | sk
  /-- Other symbol -/
  | so
  /-- Space -/
  | zs
  /-- Line separator -/
  | zl
  /-- Paragraph separator -/
  | zp
  /-- Control -/
  | cc
  /-- Format character -/
  | cf
  /-- Surrogate -/
  | cs
  /-- Private use -/
  | co
  /-- Unassigned -/
  | cn
deriving DecidableEq, Repr, Inhabited

/-- How a run of the table goes on: one category throughout, or case letters in turn. -/
inductive CategoryRun where
  | all (c : Category)
  | fromLu
  | fromLl

/-- The category at a distance from the start of a run. -/
def CategoryRun.at (offset : Nat) : CategoryRun → Category
  | all c => c
  | fromLu => if offset % 2 = 0 then .lu else .ll
  | fromLl => if offset % 2 = 0 then .ll else .lu

set_option maxRecDepth 100000 in
/-- Where each run begins, in order. -/
def categoryRuns : Array (Nat × CategoryRun) := #[
  (0x0, .all .cc), (0x20, .all .zs), (0x21, .all .po), (0x24, .all .sc), (0x25, .all .po),
  (0x28, .all .ps), (0x29, .all .pe), (0x2A, .all .po), (0x2B, .all .sm), (0x2C, .all .po),
  (0x2D, .all .pd), (0x2E, .all .po), (0x30, .all .nd), (0x3A, .all .po), (0x3C, .all .sm),
  (0x3F, .all .po), (0x41, .all .lu), (0x5B, .all .ps), (0x5C, .all .po), (0x5D, .all .pe),
  (0x5E, .all .sk), (0x5F, .all .pc), (0x60, .all .sk), (0x61, .all .ll), (0x7B, .all .ps),
  (0x7C, .all .sm), (0x7D, .all .pe), (0x7E, .all .sm), (0x7F, .all .cc), (0xA0, .all .zs),
  (0xA1, .all .po), (0xA2, .all .sc), (0xA6, .all .so), (0xA7, .all .po), (0xA8, .all .sk),
  (0xA9, .all .so), (0xAA, .all .lo), (0xAB, .all .pi), (0xAC, .all .sm), (0xAD, .all .cf),
  (0xAE, .all .so), (0xAF, .all .sk), (0xB0, .all .so), (0xB1, .all .sm), (0xB2, .all .no),
  (0xB4, .all .sk), (0xB5, .all .ll), (0xB6, .all .po), (0xB8, .all .sk), (0xB9, .all .no),
  (0xBA, .all .lo), (0xBB, .all .pf), (0xBC, .all .no), (0xBF, .all .po), (0xC0, .all .lu),
  (0xD7, .all .sm), (0xD8, .all .lu), (0xDF, .all .ll), (0xF7, .all .sm), (0xF8, .all .ll),
  (0x100, .fromLu), (0x137, .all .ll), (0x139, .fromLu), (0x148, .all .ll), (0x14A, .fromLu),
  (0x178, .all .lu), (0x17A, .fromLl), (0x17E, .all .ll), (0x181, .all .lu), (0x183, .all .ll),
  (0x184, .all .lu), (0x185, .all .ll), (0x186, .all .lu), (0x188, .all .ll), (0x189, .all .lu),
  (0x18C, .all .ll), (0x18E, .all .lu), (0x192, .all .ll), (0x193, .all .lu), (0x195, .all .ll),
  (0x196, .all .lu), (0x199, .all .ll), (0x19C, .all .lu), (0x19E, .all .ll), (0x19F, .all .lu),
  (0x1A1, .fromLl), (0x1A6, .all .lu), (0x1A8, .all .ll), (0x1A9, .all .lu), (0x1AA, .all .ll),
  (0x1AC, .all .lu), (0x1AD, .all .ll), (0x1AE, .all .lu), (0x1B0, .all .ll), (0x1B1, .all .lu),
  (0x1B4, .all .ll), (0x1B5, .all .lu), (0x1B6, .all .ll), (0x1B7, .all .lu), (0x1B9, .all .ll),
  (0x1BB, .all .lo), (0x1BC, .all .lu), (0x1BD, .all .ll), (0x1C0, .all .lo), (0x1C4, .all .lu),
  (0x1C5, .all .lt), (0x1C6, .all .ll), (0x1C7, .all .lu), (0x1C8, .all .lt), (0x1C9, .all .ll),
  (0x1CA, .all .lu), (0x1CB, .all .lt), (0x1CC, .fromLl), (0x1DC, .all .ll), (0x1DE, .fromLu),
  (0x1EF, .all .ll), (0x1F1, .all .lu), (0x1F2, .all .lt), (0x1F3, .all .ll), (0x1F4, .all .lu),
  (0x1F5, .all .ll), (0x1F6, .all .lu), (0x1F9, .fromLl), (0x233, .all .ll), (0x23A, .all .lu),
  (0x23C, .all .ll), (0x23D, .all .lu), (0x23F, .all .ll), (0x241, .all .lu), (0x242, .all .ll),
  (0x243, .all .lu), (0x247, .fromLl), (0x24F, .all .ll), (0x294, .all .lo), (0x296, .all .ll),
  (0x2B0, .all .lm), (0x2C2, .all .sk), (0x2C6, .all .lm), (0x2D2, .all .sk), (0x2E0, .all .lm),
  (0x2E5, .all .sk), (0x2EC, .all .lm), (0x2ED, .all .sk), (0x2EE, .all .lm), (0x2EF, .all .sk),
  (0x300, .all .mn), (0x370, .fromLu), (0x374, .all .lm), (0x375, .all .sk), (0x376, .all .lu),
  (0x377, .all .ll), (0x378, .all .cn), (0x37A, .all .lm), (0x37B, .all .ll), (0x37E, .all .po),
  (0x37F, .all .lu), (0x380, .all .cn), (0x384, .all .sk), (0x386, .all .lu), (0x387, .all .po),
  (0x388, .all .lu), (0x38B, .all .cn), (0x38C, .all .lu), (0x38D, .all .cn), (0x38E, .all .lu),
  (0x390, .all .ll), (0x391, .all .lu), (0x3A2, .all .cn), (0x3A3, .all .lu), (0x3AC, .all .ll),
  (0x3CF, .all .lu), (0x3D0, .all .ll), (0x3D2, .all .lu), (0x3D5, .all .ll), (0x3D8, .fromLu),
  (0x3EF, .all .ll), (0x3F4, .all .lu), (0x3F5, .all .ll), (0x3F6, .all .sm), (0x3F7, .all .lu),
  (0x3F8, .all .ll), (0x3F9, .all .lu), (0x3FB, .all .ll), (0x3FD, .all .lu), (0x430, .all .ll),
  (0x460, .fromLu), (0x482, .all .so), (0x483, .all .mn), (0x488, .all .me), (0x48A, .fromLu),
  (0x4C0, .all .lu), (0x4C2, .fromLl), (0x4CE, .all .ll), (0x4D0, .fromLu), (0x530, .all .cn),
  (0x531, .all .lu), (0x557, .all .cn), (0x559, .all .lm), (0x55A, .all .po), (0x560, .all .ll),
  (0x589, .all .po), (0x58A, .all .pd), (0x58B, .all .cn), (0x58D, .all .so), (0x58F, .all .sc),
  (0x590, .all .cn), (0x591, .all .mn), (0x5BE, .all .pd), (0x5BF, .all .mn), (0x5C0, .all .po),
  (0x5C1, .all .mn), (0x5C3, .all .po), (0x5C4, .all .mn), (0x5C6, .all .po), (0x5C7, .all .mn),
  (0x5C8, .all .cn), (0x5D0, .all .lo), (0x5EB, .all .cn), (0x5EF, .all .lo), (0x5F3, .all .po),
  (0x5F5, .all .cn), (0x600, .all .cf), (0x606, .all .sm), (0x609, .all .po), (0x60B, .all .sc),
  (0x60C, .all .po), (0x60E, .all .so), (0x610, .all .mn), (0x61B, .all .po), (0x61C, .all .cf),
  (0x61D, .all .po), (0x620, .all .lo), (0x640, .all .lm), (0x641, .all .lo), (0x64B, .all .mn),
  (0x660, .all .nd), (0x66A, .all .po), (0x66E, .all .lo), (0x670, .all .mn), (0x671, .all .lo),
  (0x6D4, .all .po), (0x6D5, .all .lo), (0x6D6, .all .mn), (0x6DD, .all .cf), (0x6DE, .all .so),
  (0x6DF, .all .mn), (0x6E5, .all .lm), (0x6E7, .all .mn), (0x6E9, .all .so), (0x6EA, .all .mn),
  (0x6EE, .all .lo), (0x6F0, .all .nd), (0x6FA, .all .lo), (0x6FD, .all .so), (0x6FF, .all .lo),
  (0x700, .all .po), (0x70E, .all .cn), (0x70F, .all .cf), (0x710, .all .lo), (0x711, .all .mn),
  (0x712, .all .lo), (0x730, .all .mn), (0x74B, .all .cn), (0x74D, .all .lo), (0x7A6, .all .mn),
  (0x7B1, .all .lo), (0x7B2, .all .cn), (0x7C0, .all .nd), (0x7CA, .all .lo), (0x7EB, .all .mn),
  (0x7F4, .all .lm), (0x7F6, .all .so), (0x7F7, .all .po), (0x7FA, .all .lm), (0x7FB, .all .cn),
  (0x7FD, .all .mn), (0x7FE, .all .sc), (0x800, .all .lo), (0x816, .all .mn), (0x81A, .all .lm),
  (0x81B, .all .mn), (0x824, .all .lm), (0x825, .all .mn), (0x828, .all .lm), (0x829, .all .mn),
  (0x82E, .all .cn), (0x830, .all .po), (0x83F, .all .cn), (0x840, .all .lo), (0x859, .all .mn),
  (0x85C, .all .cn), (0x85E, .all .po), (0x85F, .all .cn), (0x860, .all .lo), (0x86B, .all .cn),
  (0x870, .all .lo), (0x888, .all .sk), (0x889, .all .lo), (0x890, .all .cf), (0x892, .all .cn),
  (0x897, .all .mn), (0x8A0, .all .lo), (0x8C9, .all .lm), (0x8CA, .all .mn), (0x8E2, .all .cf),
  (0x8E3, .all .mn), (0x903, .all .mc), (0x904, .all .lo), (0x93A, .all .mn), (0x93B, .all .mc),
  (0x93C, .all .mn), (0x93D, .all .lo), (0x93E, .all .mc), (0x941, .all .mn), (0x949, .all .mc),
  (0x94D, .all .mn), (0x94E, .all .mc), (0x950, .all .lo), (0x951, .all .mn), (0x958, .all .lo),
  (0x962, .all .mn), (0x964, .all .po), (0x966, .all .nd), (0x970, .all .po), (0x971, .all .lm),
  (0x972, .all .lo), (0x981, .all .mn), (0x982, .all .mc), (0x984, .all .cn), (0x985, .all .lo),
  (0x98D, .all .cn), (0x98F, .all .lo), (0x991, .all .cn), (0x993, .all .lo), (0x9A9, .all .cn),
  (0x9AA, .all .lo), (0x9B1, .all .cn), (0x9B2, .all .lo), (0x9B3, .all .cn), (0x9B6, .all .lo),
  (0x9BA, .all .cn), (0x9BC, .all .mn), (0x9BD, .all .lo), (0x9BE, .all .mc), (0x9C1, .all .mn),
  (0x9C5, .all .cn), (0x9C7, .all .mc), (0x9C9, .all .cn), (0x9CB, .all .mc), (0x9CD, .all .mn),
  (0x9CE, .all .lo), (0x9CF, .all .cn), (0x9D7, .all .mc), (0x9D8, .all .cn), (0x9DC, .all .lo),
  (0x9DE, .all .cn), (0x9DF, .all .lo), (0x9E2, .all .mn), (0x9E4, .all .cn), (0x9E6, .all .nd),
  (0x9F0, .all .lo), (0x9F2, .all .sc), (0x9F4, .all .no), (0x9FA, .all .so), (0x9FB, .all .sc),
  (0x9FC, .all .lo), (0x9FD, .all .po), (0x9FE, .all .mn), (0x9FF, .all .cn), (0xA01, .all .mn),
  (0xA03, .all .mc), (0xA04, .all .cn), (0xA05, .all .lo), (0xA0B, .all .cn), (0xA0F, .all .lo),
  (0xA11, .all .cn), (0xA13, .all .lo), (0xA29, .all .cn), (0xA2A, .all .lo), (0xA31, .all .cn),
  (0xA32, .all .lo), (0xA34, .all .cn), (0xA35, .all .lo), (0xA37, .all .cn), (0xA38, .all .lo),
  (0xA3A, .all .cn), (0xA3C, .all .mn), (0xA3D, .all .cn), (0xA3E, .all .mc), (0xA41, .all .mn),
  (0xA43, .all .cn), (0xA47, .all .mn), (0xA49, .all .cn), (0xA4B, .all .mn), (0xA4E, .all .cn),
  (0xA51, .all .mn), (0xA52, .all .cn), (0xA59, .all .lo), (0xA5D, .all .cn), (0xA5E, .all .lo),
  (0xA5F, .all .cn), (0xA66, .all .nd), (0xA70, .all .mn), (0xA72, .all .lo), (0xA75, .all .mn),
  (0xA76, .all .po), (0xA77, .all .cn), (0xA81, .all .mn), (0xA83, .all .mc), (0xA84, .all .cn),
  (0xA85, .all .lo), (0xA8E, .all .cn), (0xA8F, .all .lo), (0xA92, .all .cn), (0xA93, .all .lo),
  (0xAA9, .all .cn), (0xAAA, .all .lo), (0xAB1, .all .cn), (0xAB2, .all .lo), (0xAB4, .all .cn),
  (0xAB5, .all .lo), (0xABA, .all .cn), (0xABC, .all .mn), (0xABD, .all .lo), (0xABE, .all .mc),
  (0xAC1, .all .mn), (0xAC6, .all .cn), (0xAC7, .all .mn), (0xAC9, .all .mc), (0xACA, .all .cn),
  (0xACB, .all .mc), (0xACD, .all .mn), (0xACE, .all .cn), (0xAD0, .all .lo), (0xAD1, .all .cn),
  (0xAE0, .all .lo), (0xAE2, .all .mn), (0xAE4, .all .cn), (0xAE6, .all .nd), (0xAF0, .all .po),
  (0xAF1, .all .sc), (0xAF2, .all .cn), (0xAF9, .all .lo), (0xAFA, .all .mn), (0xB00, .all .cn),
  (0xB01, .all .mn), (0xB02, .all .mc), (0xB04, .all .cn), (0xB05, .all .lo), (0xB0D, .all .cn),
  (0xB0F, .all .lo), (0xB11, .all .cn), (0xB13, .all .lo), (0xB29, .all .cn), (0xB2A, .all .lo),
  (0xB31, .all .cn), (0xB32, .all .lo), (0xB34, .all .cn), (0xB35, .all .lo), (0xB3A, .all .cn),
  (0xB3C, .all .mn), (0xB3D, .all .lo), (0xB3E, .all .mc), (0xB3F, .all .mn), (0xB40, .all .mc),
  (0xB41, .all .mn), (0xB45, .all .cn), (0xB47, .all .mc), (0xB49, .all .cn), (0xB4B, .all .mc),
  (0xB4D, .all .mn), (0xB4E, .all .cn), (0xB55, .all .mn), (0xB57, .all .mc), (0xB58, .all .cn),
  (0xB5C, .all .lo), (0xB5E, .all .cn), (0xB5F, .all .lo), (0xB62, .all .mn), (0xB64, .all .cn),
  (0xB66, .all .nd), (0xB70, .all .so), (0xB71, .all .lo), (0xB72, .all .no), (0xB78, .all .cn),
  (0xB82, .all .mn), (0xB83, .all .lo), (0xB84, .all .cn), (0xB85, .all .lo), (0xB8B, .all .cn),
  (0xB8E, .all .lo), (0xB91, .all .cn), (0xB92, .all .lo), (0xB96, .all .cn), (0xB99, .all .lo),
  (0xB9B, .all .cn), (0xB9C, .all .lo), (0xB9D, .all .cn), (0xB9E, .all .lo), (0xBA0, .all .cn),
  (0xBA3, .all .lo), (0xBA5, .all .cn), (0xBA8, .all .lo), (0xBAB, .all .cn), (0xBAE, .all .lo),
  (0xBBA, .all .cn), (0xBBE, .all .mc), (0xBC0, .all .mn), (0xBC1, .all .mc), (0xBC3, .all .cn),
  (0xBC6, .all .mc), (0xBC9, .all .cn), (0xBCA, .all .mc), (0xBCD, .all .mn), (0xBCE, .all .cn),
  (0xBD0, .all .lo), (0xBD1, .all .cn), (0xBD7, .all .mc), (0xBD8, .all .cn), (0xBE6, .all .nd),
  (0xBF0, .all .no), (0xBF3, .all .so), (0xBF9, .all .sc), (0xBFA, .all .so), (0xBFB, .all .cn),
  (0xC00, .all .mn), (0xC01, .all .mc), (0xC04, .all .mn), (0xC05, .all .lo), (0xC0D, .all .cn),
  (0xC0E, .all .lo), (0xC11, .all .cn), (0xC12, .all .lo), (0xC29, .all .cn), (0xC2A, .all .lo),
  (0xC3A, .all .cn), (0xC3C, .all .mn), (0xC3D, .all .lo), (0xC3E, .all .mn), (0xC41, .all .mc),
  (0xC45, .all .cn), (0xC46, .all .mn), (0xC49, .all .cn), (0xC4A, .all .mn), (0xC4E, .all .cn),
  (0xC55, .all .mn), (0xC57, .all .cn), (0xC58, .all .lo), (0xC5B, .all .cn), (0xC5C, .all .lo),
  (0xC5E, .all .cn), (0xC60, .all .lo), (0xC62, .all .mn), (0xC64, .all .cn), (0xC66, .all .nd),
  (0xC70, .all .cn), (0xC77, .all .po), (0xC78, .all .no), (0xC7F, .all .so), (0xC80, .all .lo),
  (0xC81, .all .mn), (0xC82, .all .mc), (0xC84, .all .po), (0xC85, .all .lo), (0xC8D, .all .cn),
  (0xC8E, .all .lo), (0xC91, .all .cn), (0xC92, .all .lo), (0xCA9, .all .cn), (0xCAA, .all .lo),
  (0xCB4, .all .cn), (0xCB5, .all .lo), (0xCBA, .all .cn), (0xCBC, .all .mn), (0xCBD, .all .lo),
  (0xCBE, .all .mc), (0xCBF, .all .mn), (0xCC0, .all .mc), (0xCC5, .all .cn), (0xCC6, .all .mn),
  (0xCC7, .all .mc), (0xCC9, .all .cn), (0xCCA, .all .mc), (0xCCC, .all .mn), (0xCCE, .all .cn),
  (0xCD5, .all .mc), (0xCD7, .all .cn), (0xCDC, .all .lo), (0xCDF, .all .cn), (0xCE0, .all .lo),
  (0xCE2, .all .mn), (0xCE4, .all .cn), (0xCE6, .all .nd), (0xCF0, .all .cn), (0xCF1, .all .lo),
  (0xCF3, .all .mc), (0xCF4, .all .cn), (0xD00, .all .mn), (0xD02, .all .mc), (0xD04, .all .lo),
  (0xD0D, .all .cn), (0xD0E, .all .lo), (0xD11, .all .cn), (0xD12, .all .lo), (0xD3B, .all .mn),
  (0xD3D, .all .lo), (0xD3E, .all .mc), (0xD41, .all .mn), (0xD45, .all .cn), (0xD46, .all .mc),
  (0xD49, .all .cn), (0xD4A, .all .mc), (0xD4D, .all .mn), (0xD4E, .all .lo), (0xD4F, .all .so),
  (0xD50, .all .cn), (0xD54, .all .lo), (0xD57, .all .mc), (0xD58, .all .no), (0xD5F, .all .lo),
  (0xD62, .all .mn), (0xD64, .all .cn), (0xD66, .all .nd), (0xD70, .all .no), (0xD79, .all .so),
  (0xD7A, .all .lo), (0xD80, .all .cn), (0xD81, .all .mn), (0xD82, .all .mc), (0xD84, .all .cn),
  (0xD85, .all .lo), (0xD97, .all .cn), (0xD9A, .all .lo), (0xDB2, .all .cn), (0xDB3, .all .lo),
  (0xDBC, .all .cn), (0xDBD, .all .lo), (0xDBE, .all .cn), (0xDC0, .all .lo), (0xDC7, .all .cn),
  (0xDCA, .all .mn), (0xDCB, .all .cn), (0xDCF, .all .mc), (0xDD2, .all .mn), (0xDD5, .all .cn),
  (0xDD6, .all .mn), (0xDD7, .all .cn), (0xDD8, .all .mc), (0xDE0, .all .cn), (0xDE6, .all .nd),
  (0xDF0, .all .cn), (0xDF2, .all .mc), (0xDF4, .all .po), (0xDF5, .all .cn), (0xE01, .all .lo),
  (0xE31, .all .mn), (0xE32, .all .lo), (0xE34, .all .mn), (0xE3B, .all .cn), (0xE3F, .all .sc),
  (0xE40, .all .lo), (0xE46, .all .lm), (0xE47, .all .mn), (0xE4F, .all .po), (0xE50, .all .nd),
  (0xE5A, .all .po), (0xE5C, .all .cn), (0xE81, .all .lo), (0xE83, .all .cn), (0xE84, .all .lo),
  (0xE85, .all .cn), (0xE86, .all .lo), (0xE8B, .all .cn), (0xE8C, .all .lo), (0xEA4, .all .cn),
  (0xEA5, .all .lo), (0xEA6, .all .cn), (0xEA7, .all .lo), (0xEB1, .all .mn), (0xEB2, .all .lo),
  (0xEB4, .all .mn), (0xEBD, .all .lo), (0xEBE, .all .cn), (0xEC0, .all .lo), (0xEC5, .all .cn),
  (0xEC6, .all .lm), (0xEC7, .all .cn), (0xEC8, .all .mn), (0xECF, .all .cn), (0xED0, .all .nd),
  (0xEDA, .all .cn), (0xEDC, .all .lo), (0xEE0, .all .cn), (0xF00, .all .lo), (0xF01, .all .so),
  (0xF04, .all .po), (0xF13, .all .so), (0xF14, .all .po), (0xF15, .all .so), (0xF18, .all .mn),
  (0xF1A, .all .so), (0xF20, .all .nd), (0xF2A, .all .no), (0xF34, .all .so), (0xF35, .all .mn),
  (0xF36, .all .so), (0xF37, .all .mn), (0xF38, .all .so), (0xF39, .all .mn), (0xF3A, .all .ps),
  (0xF3B, .all .pe), (0xF3C, .all .ps), (0xF3D, .all .pe), (0xF3E, .all .mc), (0xF40, .all .lo),
  (0xF48, .all .cn), (0xF49, .all .lo), (0xF6D, .all .cn), (0xF71, .all .mn), (0xF7F, .all .mc),
  (0xF80, .all .mn), (0xF85, .all .po), (0xF86, .all .mn), (0xF88, .all .lo), (0xF8D, .all .mn),
  (0xF98, .all .cn), (0xF99, .all .mn), (0xFBD, .all .cn), (0xFBE, .all .so), (0xFC6, .all .mn),
  (0xFC7, .all .so), (0xFCD, .all .cn), (0xFCE, .all .so), (0xFD0, .all .po), (0xFD5, .all .so),
  (0xFD9, .all .po), (0xFDB, .all .cn), (0x1000, .all .lo), (0x102B, .all .mc),
  (0x102D, .all .mn), (0x1031, .all .mc), (0x1032, .all .mn), (0x1038, .all .mc),
  (0x1039, .all .mn), (0x103B, .all .mc), (0x103D, .all .mn), (0x103F, .all .lo),
  (0x1040, .all .nd), (0x104A, .all .po), (0x1050, .all .lo), (0x1056, .all .mc),
  (0x1058, .all .mn), (0x105A, .all .lo), (0x105E, .all .mn), (0x1061, .all .lo),
  (0x1062, .all .mc), (0x1065, .all .lo), (0x1067, .all .mc), (0x106E, .all .lo),
  (0x1071, .all .mn), (0x1075, .all .lo), (0x1082, .all .mn), (0x1083, .all .mc),
  (0x1085, .all .mn), (0x1087, .all .mc), (0x108D, .all .mn), (0x108E, .all .lo),
  (0x108F, .all .mc), (0x1090, .all .nd), (0x109A, .all .mc), (0x109D, .all .mn),
  (0x109E, .all .so), (0x10A0, .all .lu), (0x10C6, .all .cn), (0x10C7, .all .lu),
  (0x10C8, .all .cn), (0x10CD, .all .lu), (0x10CE, .all .cn), (0x10D0, .all .ll),
  (0x10FB, .all .po), (0x10FC, .all .lm), (0x10FD, .all .ll), (0x1100, .all .lo),
  (0x1249, .all .cn), (0x124A, .all .lo), (0x124E, .all .cn), (0x1250, .all .lo),
  (0x1257, .all .cn), (0x1258, .all .lo), (0x1259, .all .cn), (0x125A, .all .lo),
  (0x125E, .all .cn), (0x1260, .all .lo), (0x1289, .all .cn), (0x128A, .all .lo),
  (0x128E, .all .cn), (0x1290, .all .lo), (0x12B1, .all .cn), (0x12B2, .all .lo),
  (0x12B6, .all .cn), (0x12B8, .all .lo), (0x12BF, .all .cn), (0x12C0, .all .lo),
  (0x12C1, .all .cn), (0x12C2, .all .lo), (0x12C6, .all .cn), (0x12C8, .all .lo),
  (0x12D7, .all .cn), (0x12D8, .all .lo), (0x1311, .all .cn), (0x1312, .all .lo),
  (0x1316, .all .cn), (0x1318, .all .lo), (0x135B, .all .cn), (0x135D, .all .mn),
  (0x1360, .all .po), (0x1369, .all .no), (0x137D, .all .cn), (0x1380, .all .lo),
  (0x1390, .all .so), (0x139A, .all .cn), (0x13A0, .all .lu), (0x13F6, .all .cn),
  (0x13F8, .all .ll), (0x13FE, .all .cn), (0x1400, .all .pd), (0x1401, .all .lo),
  (0x166D, .all .so), (0x166E, .all .po), (0x166F, .all .lo), (0x1680, .all .zs),
  (0x1681, .all .lo), (0x169B, .all .ps), (0x169C, .all .pe), (0x169D, .all .cn),
  (0x16A0, .all .lo), (0x16EB, .all .po), (0x16EE, .all .nl), (0x16F1, .all .lo),
  (0x16F9, .all .cn), (0x1700, .all .lo), (0x1712, .all .mn), (0x1715, .all .mc),
  (0x1716, .all .cn), (0x171F, .all .lo), (0x1732, .all .mn), (0x1734, .all .mc),
  (0x1735, .all .po), (0x1737, .all .cn), (0x1740, .all .lo), (0x1752, .all .mn),
  (0x1754, .all .cn), (0x1760, .all .lo), (0x176D, .all .cn), (0x176E, .all .lo),
  (0x1771, .all .cn), (0x1772, .all .mn), (0x1774, .all .cn), (0x1780, .all .lo),
  (0x17B4, .all .mn), (0x17B6, .all .mc), (0x17B7, .all .mn), (0x17BE, .all .mc),
  (0x17C6, .all .mn), (0x17C7, .all .mc), (0x17C9, .all .mn), (0x17D4, .all .po),
  (0x17D7, .all .lm), (0x17D8, .all .po), (0x17DB, .all .sc), (0x17DC, .all .lo),
  (0x17DD, .all .mn), (0x17DE, .all .cn), (0x17E0, .all .nd), (0x17EA, .all .cn),
  (0x17F0, .all .no), (0x17FA, .all .cn), (0x1800, .all .po), (0x1806, .all .pd),
  (0x1807, .all .po), (0x180B, .all .mn), (0x180E, .all .cf), (0x180F, .all .mn),
  (0x1810, .all .nd), (0x181A, .all .cn), (0x1820, .all .lo), (0x1843, .all .lm),
  (0x1844, .all .lo), (0x1879, .all .cn), (0x1880, .all .lo), (0x1885, .all .mn),
  (0x1887, .all .lo), (0x18A9, .all .mn), (0x18AA, .all .lo), (0x18AB, .all .cn),
  (0x18B0, .all .lo), (0x18F6, .all .cn), (0x1900, .all .lo), (0x191F, .all .cn),
  (0x1920, .all .mn), (0x1923, .all .mc), (0x1927, .all .mn), (0x1929, .all .mc),
  (0x192C, .all .cn), (0x1930, .all .mc), (0x1932, .all .mn), (0x1933, .all .mc),
  (0x1939, .all .mn), (0x193C, .all .cn), (0x1940, .all .so), (0x1941, .all .cn),
  (0x1944, .all .po), (0x1946, .all .nd), (0x1950, .all .lo), (0x196E, .all .cn),
  (0x1970, .all .lo), (0x1975, .all .cn), (0x1980, .all .lo), (0x19AC, .all .cn),
  (0x19B0, .all .lo), (0x19CA, .all .cn), (0x19D0, .all .nd), (0x19DA, .all .no),
  (0x19DB, .all .cn), (0x19DE, .all .so), (0x1A00, .all .lo), (0x1A17, .all .mn),
  (0x1A19, .all .mc), (0x1A1B, .all .mn), (0x1A1C, .all .cn), (0x1A1E, .all .po),
  (0x1A20, .all .lo), (0x1A55, .all .mc), (0x1A56, .all .mn), (0x1A57, .all .mc),
  (0x1A58, .all .mn), (0x1A5F, .all .cn), (0x1A60, .all .mn), (0x1A61, .all .mc),
  (0x1A62, .all .mn), (0x1A63, .all .mc), (0x1A65, .all .mn), (0x1A6D, .all .mc),
  (0x1A73, .all .mn), (0x1A7D, .all .cn), (0x1A7F, .all .mn), (0x1A80, .all .nd),
  (0x1A8A, .all .cn), (0x1A90, .all .nd), (0x1A9A, .all .cn), (0x1AA0, .all .po),
  (0x1AA7, .all .lm), (0x1AA8, .all .po), (0x1AAE, .all .cn), (0x1AB0, .all .mn),
  (0x1ABE, .all .me), (0x1ABF, .all .mn), (0x1ADE, .all .cn), (0x1AE0, .all .mn),
  (0x1AEC, .all .cn), (0x1B00, .all .mn), (0x1B04, .all .mc), (0x1B05, .all .lo),
  (0x1B34, .all .mn), (0x1B35, .all .mc), (0x1B36, .all .mn), (0x1B3B, .all .mc),
  (0x1B3C, .all .mn), (0x1B3D, .all .mc), (0x1B42, .all .mn), (0x1B43, .all .mc),
  (0x1B45, .all .lo), (0x1B4D, .all .cn), (0x1B4E, .all .po), (0x1B50, .all .nd),
  (0x1B5A, .all .po), (0x1B61, .all .so), (0x1B6B, .all .mn), (0x1B74, .all .so),
  (0x1B7D, .all .po), (0x1B80, .all .mn), (0x1B82, .all .mc), (0x1B83, .all .lo),
  (0x1BA1, .all .mc), (0x1BA2, .all .mn), (0x1BA6, .all .mc), (0x1BA8, .all .mn),
  (0x1BAA, .all .mc), (0x1BAB, .all .mn), (0x1BAE, .all .lo), (0x1BB0, .all .nd),
  (0x1BBA, .all .lo), (0x1BE6, .all .mn), (0x1BE7, .all .mc), (0x1BE8, .all .mn),
  (0x1BEA, .all .mc), (0x1BED, .all .mn), (0x1BEE, .all .mc), (0x1BEF, .all .mn),
  (0x1BF2, .all .mc), (0x1BF4, .all .cn), (0x1BFC, .all .po), (0x1C00, .all .lo),
  (0x1C24, .all .mc), (0x1C2C, .all .mn), (0x1C34, .all .mc), (0x1C36, .all .mn),
  (0x1C38, .all .cn), (0x1C3B, .all .po), (0x1C40, .all .nd), (0x1C4A, .all .cn),
  (0x1C4D, .all .lo), (0x1C50, .all .nd), (0x1C5A, .all .lo), (0x1C78, .all .lm),
  (0x1C7E, .all .po), (0x1C80, .all .ll), (0x1C89, .all .lu), (0x1C8A, .all .ll),
  (0x1C8B, .all .cn), (0x1C90, .all .lu), (0x1CBB, .all .cn), (0x1CBD, .all .lu),
  (0x1CC0, .all .po), (0x1CC8, .all .cn), (0x1CD0, .all .mn), (0x1CD3, .all .po),
  (0x1CD4, .all .mn), (0x1CE1, .all .mc), (0x1CE2, .all .mn), (0x1CE9, .all .lo),
  (0x1CED, .all .mn), (0x1CEE, .all .lo), (0x1CF4, .all .mn), (0x1CF5, .all .lo),
  (0x1CF7, .all .mc), (0x1CF8, .all .mn), (0x1CFA, .all .lo), (0x1CFB, .all .cn),
  (0x1D00, .all .ll), (0x1D2C, .all .lm), (0x1D6B, .all .ll), (0x1D78, .all .lm),
  (0x1D79, .all .ll), (0x1D9B, .all .lm), (0x1DC0, .all .mn), (0x1E00, .fromLu),
  (0x1E95, .all .ll), (0x1E9E, .fromLu), (0x1EFF, .all .ll), (0x1F08, .all .lu),
  (0x1F10, .all .ll), (0x1F16, .all .cn), (0x1F18, .all .lu), (0x1F1E, .all .cn),
  (0x1F20, .all .ll), (0x1F28, .all .lu), (0x1F30, .all .ll), (0x1F38, .all .lu),
  (0x1F40, .all .ll), (0x1F46, .all .cn), (0x1F48, .all .lu), (0x1F4E, .all .cn),
  (0x1F50, .all .ll), (0x1F58, .all .cn), (0x1F59, .all .lu), (0x1F5A, .all .cn),
  (0x1F5B, .all .lu), (0x1F5C, .all .cn), (0x1F5D, .all .lu), (0x1F5E, .all .cn),
  (0x1F5F, .all .lu), (0x1F60, .all .ll), (0x1F68, .all .lu), (0x1F70, .all .ll),
  (0x1F7E, .all .cn), (0x1F80, .all .ll), (0x1F88, .all .lt), (0x1F90, .all .ll),
  (0x1F98, .all .lt), (0x1FA0, .all .ll), (0x1FA8, .all .lt), (0x1FB0, .all .ll),
  (0x1FB5, .all .cn), (0x1FB6, .all .ll), (0x1FB8, .all .lu), (0x1FBC, .all .lt),
  (0x1FBD, .all .sk), (0x1FBE, .all .ll), (0x1FBF, .all .sk), (0x1FC2, .all .ll),
  (0x1FC5, .all .cn), (0x1FC6, .all .ll), (0x1FC8, .all .lu), (0x1FCC, .all .lt),
  (0x1FCD, .all .sk), (0x1FD0, .all .ll), (0x1FD4, .all .cn), (0x1FD6, .all .ll),
  (0x1FD8, .all .lu), (0x1FDC, .all .cn), (0x1FDD, .all .sk), (0x1FE0, .all .ll),
  (0x1FE8, .all .lu), (0x1FED, .all .sk), (0x1FF0, .all .cn), (0x1FF2, .all .ll),
  (0x1FF5, .all .cn), (0x1FF6, .all .ll), (0x1FF8, .all .lu), (0x1FFC, .all .lt),
  (0x1FFD, .all .sk), (0x1FFF, .all .cn), (0x2000, .all .zs), (0x200B, .all .cf),
  (0x2010, .all .pd), (0x2016, .all .po), (0x2018, .all .pi), (0x2019, .all .pf),
  (0x201A, .all .ps), (0x201B, .all .pi), (0x201D, .all .pf), (0x201E, .all .ps),
  (0x201F, .all .pi), (0x2020, .all .po), (0x2028, .all .zl), (0x2029, .all .zp),
  (0x202A, .all .cf), (0x202F, .all .zs), (0x2030, .all .po), (0x2039, .all .pi),
  (0x203A, .all .pf), (0x203B, .all .po), (0x203F, .all .pc), (0x2041, .all .po),
  (0x2044, .all .sm), (0x2045, .all .ps), (0x2046, .all .pe), (0x2047, .all .po),
  (0x2052, .all .sm), (0x2053, .all .po), (0x2054, .all .pc), (0x2055, .all .po),
  (0x205F, .all .zs), (0x2060, .all .cf), (0x2065, .all .cn), (0x2066, .all .cf),
  (0x2070, .all .no), (0x2071, .all .lm), (0x2072, .all .cn), (0x2074, .all .no),
  (0x207A, .all .sm), (0x207D, .all .ps), (0x207E, .all .pe), (0x207F, .all .lm),
  (0x2080, .all .no), (0x208A, .all .sm), (0x208D, .all .ps), (0x208E, .all .pe),
  (0x208F, .all .cn), (0x2090, .all .lm), (0x209D, .all .cn), (0x20A0, .all .sc),
  (0x20C2, .all .cn), (0x20D0, .all .mn), (0x20DD, .all .me), (0x20E1, .all .mn),
  (0x20E2, .all .me), (0x20E5, .all .mn), (0x20F1, .all .cn), (0x2100, .all .so),
  (0x2102, .all .lu), (0x2103, .all .so), (0x2107, .all .lu), (0x2108, .all .so),
  (0x210A, .all .ll), (0x210B, .all .lu), (0x210E, .all .ll), (0x2110, .all .lu),
  (0x2113, .all .ll), (0x2114, .all .so), (0x2115, .all .lu), (0x2116, .all .so),
  (0x2118, .all .sm), (0x2119, .all .lu), (0x211E, .all .so), (0x2124, .all .lu),
  (0x2125, .all .so), (0x2126, .all .lu), (0x2127, .all .so), (0x2128, .all .lu),
  (0x2129, .all .so), (0x212A, .all .lu), (0x212E, .all .so), (0x212F, .all .ll),
  (0x2130, .all .lu), (0x2134, .all .ll), (0x2135, .all .lo), (0x2139, .all .ll),
  (0x213A, .all .so), (0x213C, .all .ll), (0x213E, .all .lu), (0x2140, .all .sm),
  (0x2145, .all .lu), (0x2146, .all .ll), (0x214A, .all .so), (0x214B, .all .sm),
  (0x214C, .all .so), (0x214E, .all .ll), (0x214F, .all .so), (0x2150, .all .no),
  (0x2160, .all .nl), (0x2183, .all .lu), (0x2184, .all .ll), (0x2185, .all .nl),
  (0x2189, .all .no), (0x218A, .all .so), (0x218C, .all .cn), (0x2190, .all .sm),
  (0x2195, .all .so), (0x219A, .all .sm), (0x219C, .all .so), (0x21A0, .all .sm),
  (0x21A1, .all .so), (0x21A3, .all .sm), (0x21A4, .all .so), (0x21A6, .all .sm),
  (0x21A7, .all .so), (0x21AE, .all .sm), (0x21AF, .all .so), (0x21CE, .all .sm),
  (0x21D0, .all .so), (0x21D2, .all .sm), (0x21D3, .all .so), (0x21D4, .all .sm),
  (0x21D5, .all .so), (0x21F4, .all .sm), (0x2300, .all .so), (0x2308, .all .ps),
  (0x2309, .all .pe), (0x230A, .all .ps), (0x230B, .all .pe), (0x230C, .all .so),
  (0x2320, .all .sm), (0x2322, .all .so), (0x2329, .all .ps), (0x232A, .all .pe),
  (0x232B, .all .so), (0x237C, .all .sm), (0x237D, .all .so), (0x239B, .all .sm),
  (0x23B4, .all .so), (0x23DC, .all .sm), (0x23E2, .all .so), (0x242A, .all .cn),
  (0x2440, .all .so), (0x244B, .all .cn), (0x2460, .all .no), (0x249C, .all .so),
  (0x24EA, .all .no), (0x2500, .all .so), (0x25B7, .all .sm), (0x25B8, .all .so),
  (0x25C1, .all .sm), (0x25C2, .all .so), (0x25F8, .all .sm), (0x2600, .all .so),
  (0x266F, .all .sm), (0x2670, .all .so), (0x2768, .all .ps), (0x2769, .all .pe),
  (0x276A, .all .ps), (0x276B, .all .pe), (0x276C, .all .ps), (0x276D, .all .pe),
  (0x276E, .all .ps), (0x276F, .all .pe), (0x2770, .all .ps), (0x2771, .all .pe),
  (0x2772, .all .ps), (0x2773, .all .pe), (0x2774, .all .ps), (0x2775, .all .pe),
  (0x2776, .all .no), (0x2794, .all .so), (0x27C0, .all .sm), (0x27C5, .all .ps),
  (0x27C6, .all .pe), (0x27C7, .all .sm), (0x27E6, .all .ps), (0x27E7, .all .pe),
  (0x27E8, .all .ps), (0x27E9, .all .pe), (0x27EA, .all .ps), (0x27EB, .all .pe),
  (0x27EC, .all .ps), (0x27ED, .all .pe), (0x27EE, .all .ps), (0x27EF, .all .pe),
  (0x27F0, .all .sm), (0x2800, .all .so), (0x2900, .all .sm), (0x2983, .all .ps),
  (0x2984, .all .pe), (0x2985, .all .ps), (0x2986, .all .pe), (0x2987, .all .ps),
  (0x2988, .all .pe), (0x2989, .all .ps), (0x298A, .all .pe), (0x298B, .all .ps),
  (0x298C, .all .pe), (0x298D, .all .ps), (0x298E, .all .pe), (0x298F, .all .ps),
  (0x2990, .all .pe), (0x2991, .all .ps), (0x2992, .all .pe), (0x2993, .all .ps),
  (0x2994, .all .pe), (0x2995, .all .ps), (0x2996, .all .pe), (0x2997, .all .ps),
  (0x2998, .all .pe), (0x2999, .all .sm), (0x29D8, .all .ps), (0x29D9, .all .pe),
  (0x29DA, .all .ps), (0x29DB, .all .pe), (0x29DC, .all .sm), (0x29FC, .all .ps),
  (0x29FD, .all .pe), (0x29FE, .all .sm), (0x2B00, .all .so), (0x2B30, .all .sm),
  (0x2B45, .all .so), (0x2B47, .all .sm), (0x2B4D, .all .so), (0x2B74, .all .cn),
  (0x2B76, .all .so), (0x2C00, .all .lu), (0x2C30, .all .ll), (0x2C60, .all .lu),
  (0x2C61, .all .ll), (0x2C62, .all .lu), (0x2C65, .all .ll), (0x2C67, .fromLu),
  (0x2C6D, .all .lu), (0x2C71, .all .ll), (0x2C72, .all .lu), (0x2C73, .all .ll),
  (0x2C75, .all .lu), (0x2C76, .all .ll), (0x2C7C, .all .lm), (0x2C7E, .all .lu),
  (0x2C81, .fromLl), (0x2CE3, .all .ll), (0x2CE5, .all .so), (0x2CEB, .fromLu),
  (0x2CEF, .all .mn), (0x2CF2, .all .lu), (0x2CF3, .all .ll), (0x2CF4, .all .cn),
  (0x2CF9, .all .po), (0x2CFD, .all .no), (0x2CFE, .all .po), (0x2D00, .all .ll),
  (0x2D26, .all .cn), (0x2D27, .all .ll), (0x2D28, .all .cn), (0x2D2D, .all .ll),
  (0x2D2E, .all .cn), (0x2D30, .all .lo), (0x2D68, .all .cn), (0x2D6F, .all .lm),
  (0x2D70, .all .po), (0x2D71, .all .cn), (0x2D7F, .all .mn), (0x2D80, .all .lo),
  (0x2D97, .all .cn), (0x2DA0, .all .lo), (0x2DA7, .all .cn), (0x2DA8, .all .lo),
  (0x2DAF, .all .cn), (0x2DB0, .all .lo), (0x2DB7, .all .cn), (0x2DB8, .all .lo),
  (0x2DBF, .all .cn), (0x2DC0, .all .lo), (0x2DC7, .all .cn), (0x2DC8, .all .lo),
  (0x2DCF, .all .cn), (0x2DD0, .all .lo), (0x2DD7, .all .cn), (0x2DD8, .all .lo),
  (0x2DDF, .all .cn), (0x2DE0, .all .mn), (0x2E00, .all .po), (0x2E02, .all .pi),
  (0x2E03, .all .pf), (0x2E04, .all .pi), (0x2E05, .all .pf), (0x2E06, .all .po),
  (0x2E09, .all .pi), (0x2E0A, .all .pf), (0x2E0B, .all .po), (0x2E0C, .all .pi),
  (0x2E0D, .all .pf), (0x2E0E, .all .po), (0x2E17, .all .pd), (0x2E18, .all .po),
  (0x2E1A, .all .pd), (0x2E1B, .all .po), (0x2E1C, .all .pi), (0x2E1D, .all .pf),
  (0x2E1E, .all .po), (0x2E20, .all .pi), (0x2E21, .all .pf), (0x2E22, .all .ps),
  (0x2E23, .all .pe), (0x2E24, .all .ps), (0x2E25, .all .pe), (0x2E26, .all .ps),
  (0x2E27, .all .pe), (0x2E28, .all .ps), (0x2E29, .all .pe), (0x2E2A, .all .po),
  (0x2E2F, .all .lm), (0x2E30, .all .po), (0x2E3A, .all .pd), (0x2E3C, .all .po),
  (0x2E40, .all .pd), (0x2E41, .all .po), (0x2E42, .all .ps), (0x2E43, .all .po),
  (0x2E50, .all .so), (0x2E52, .all .po), (0x2E55, .all .ps), (0x2E56, .all .pe),
  (0x2E57, .all .ps), (0x2E58, .all .pe), (0x2E59, .all .ps), (0x2E5A, .all .pe),
  (0x2E5B, .all .ps), (0x2E5C, .all .pe), (0x2E5D, .all .pd), (0x2E5E, .all .cn),
  (0x2E80, .all .so), (0x2E9A, .all .cn), (0x2E9B, .all .so), (0x2EF4, .all .cn),
  (0x2F00, .all .so), (0x2FD6, .all .cn), (0x2FF0, .all .so), (0x3000, .all .zs),
  (0x3001, .all .po), (0x3004, .all .so), (0x3005, .all .lm), (0x3006, .all .lo),
  (0x3007, .all .nl), (0x3008, .all .ps), (0x3009, .all .pe), (0x300A, .all .ps),
  (0x300B, .all .pe), (0x300C, .all .ps), (0x300D, .all .pe), (0x300E, .all .ps),
  (0x300F, .all .pe), (0x3010, .all .ps), (0x3011, .all .pe), (0x3012, .all .so),
  (0x3014, .all .ps), (0x3015, .all .pe), (0x3016, .all .ps), (0x3017, .all .pe),
  (0x3018, .all .ps), (0x3019, .all .pe), (0x301A, .all .ps), (0x301B, .all .pe),
  (0x301C, .all .pd), (0x301D, .all .ps), (0x301E, .all .pe), (0x3020, .all .so),
  (0x3021, .all .nl), (0x302A, .all .mn), (0x302E, .all .mc), (0x3030, .all .pd),
  (0x3031, .all .lm), (0x3036, .all .so), (0x3038, .all .nl), (0x303B, .all .lm),
  (0x303C, .all .lo), (0x303D, .all .po), (0x303E, .all .so), (0x3040, .all .cn),
  (0x3041, .all .lo), (0x3097, .all .cn), (0x3099, .all .mn), (0x309B, .all .sk),
  (0x309D, .all .lm), (0x309F, .all .lo), (0x30A0, .all .pd), (0x30A1, .all .lo),
  (0x30FB, .all .po), (0x30FC, .all .lm), (0x30FF, .all .lo), (0x3100, .all .cn),
  (0x3105, .all .lo), (0x3130, .all .cn), (0x3131, .all .lo), (0x318F, .all .cn),
  (0x3190, .all .so), (0x3192, .all .no), (0x3196, .all .so), (0x31A0, .all .lo),
  (0x31C0, .all .so), (0x31E6, .all .cn), (0x31EF, .all .so), (0x31F0, .all .lo),
  (0x3200, .all .so), (0x321F, .all .cn), (0x3220, .all .no), (0x322A, .all .so),
  (0x3248, .all .no), (0x3250, .all .so), (0x3251, .all .no), (0x3260, .all .so),
  (0x3280, .all .no), (0x328A, .all .so), (0x32B1, .all .no), (0x32C0, .all .so),
  (0x3400, .all .lo), (0x4DC0, .all .so), (0x4E00, .all .lo), (0xA015, .all .lm),
  (0xA016, .all .lo), (0xA48D, .all .cn), (0xA490, .all .so), (0xA4C7, .all .cn),
  (0xA4D0, .all .lo), (0xA4F8, .all .lm), (0xA4FE, .all .po), (0xA500, .all .lo),
  (0xA60C, .all .lm), (0xA60D, .all .po), (0xA610, .all .lo), (0xA620, .all .nd),
  (0xA62A, .all .lo), (0xA62C, .all .cn), (0xA640, .fromLu), (0xA66E, .all .lo),
  (0xA66F, .all .mn), (0xA670, .all .me), (0xA673, .all .po), (0xA674, .all .mn),
  (0xA67E, .all .po), (0xA67F, .all .lm), (0xA680, .fromLu), (0xA69C, .all .lm),
  (0xA69E, .all .mn), (0xA6A0, .all .lo), (0xA6E6, .all .nl), (0xA6F0, .all .mn),
  (0xA6F2, .all .po), (0xA6F8, .all .cn), (0xA700, .all .sk), (0xA717, .all .lm),
  (0xA720, .all .sk), (0xA722, .fromLu), (0xA72F, .all .ll), (0xA732, .fromLu),
  (0xA770, .all .lm), (0xA771, .all .ll), (0xA779, .fromLu), (0xA77D, .all .lu),
  (0xA77F, .fromLl), (0xA788, .all .lm), (0xA789, .all .sk), (0xA78B, .fromLu),
  (0xA78F, .all .lo), (0xA790, .all .lu), (0xA791, .all .ll), (0xA792, .all .lu),
  (0xA793, .all .ll), (0xA796, .fromLu), (0xA7AA, .all .lu), (0xA7AF, .all .ll),
  (0xA7B0, .all .lu), (0xA7B5, .fromLl), (0xA7C4, .all .lu), (0xA7C8, .all .ll),
  (0xA7C9, .all .lu), (0xA7CA, .all .ll), (0xA7CB, .all .lu), (0xA7CD, .fromLl),
  (0xA7DD, .all .cn), (0xA7F1, .all .lm), (0xA7F5, .all .lu), (0xA7F6, .all .ll),
  (0xA7F7, .all .lo), (0xA7F8, .all .lm), (0xA7FA, .all .ll), (0xA7FB, .all .lo),
  (0xA802, .all .mn), (0xA803, .all .lo), (0xA806, .all .mn), (0xA807, .all .lo),
  (0xA80B, .all .mn), (0xA80C, .all .lo), (0xA823, .all .mc), (0xA825, .all .mn),
  (0xA827, .all .mc), (0xA828, .all .so), (0xA82C, .all .mn), (0xA82D, .all .cn),
  (0xA830, .all .no), (0xA836, .all .so), (0xA838, .all .sc), (0xA839, .all .so),
  (0xA83A, .all .cn), (0xA840, .all .lo), (0xA874, .all .po), (0xA878, .all .cn),
  (0xA880, .all .mc), (0xA882, .all .lo), (0xA8B4, .all .mc), (0xA8C4, .all .mn),
  (0xA8C6, .all .cn), (0xA8CE, .all .po), (0xA8D0, .all .nd), (0xA8DA, .all .cn),
  (0xA8E0, .all .mn), (0xA8F2, .all .lo), (0xA8F8, .all .po), (0xA8FB, .all .lo),
  (0xA8FC, .all .po), (0xA8FD, .all .lo), (0xA8FF, .all .mn), (0xA900, .all .nd),
  (0xA90A, .all .lo), (0xA926, .all .mn), (0xA92E, .all .po), (0xA930, .all .lo),
  (0xA947, .all .mn), (0xA952, .all .mc), (0xA954, .all .cn), (0xA95F, .all .po),
  (0xA960, .all .lo), (0xA97D, .all .cn), (0xA980, .all .mn), (0xA983, .all .mc),
  (0xA984, .all .lo), (0xA9B3, .all .mn), (0xA9B4, .all .mc), (0xA9B6, .all .mn),
  (0xA9BA, .all .mc), (0xA9BC, .all .mn), (0xA9BE, .all .mc), (0xA9C1, .all .po),
  (0xA9CE, .all .cn), (0xA9CF, .all .lm), (0xA9D0, .all .nd), (0xA9DA, .all .cn),
  (0xA9DE, .all .po), (0xA9E0, .all .lo), (0xA9E5, .all .mn), (0xA9E6, .all .lm),
  (0xA9E7, .all .lo), (0xA9F0, .all .nd), (0xA9FA, .all .lo), (0xA9FF, .all .cn),
  (0xAA00, .all .lo), (0xAA29, .all .mn), (0xAA2F, .all .mc), (0xAA31, .all .mn),
  (0xAA33, .all .mc), (0xAA35, .all .mn), (0xAA37, .all .cn), (0xAA40, .all .lo),
  (0xAA43, .all .mn), (0xAA44, .all .lo), (0xAA4C, .all .mn), (0xAA4D, .all .mc),
  (0xAA4E, .all .cn), (0xAA50, .all .nd), (0xAA5A, .all .cn), (0xAA5C, .all .po),
  (0xAA60, .all .lo), (0xAA70, .all .lm), (0xAA71, .all .lo), (0xAA77, .all .so),
  (0xAA7A, .all .lo), (0xAA7B, .all .mc), (0xAA7C, .all .mn), (0xAA7D, .all .mc),
  (0xAA7E, .all .lo), (0xAAB0, .all .mn), (0xAAB1, .all .lo), (0xAAB2, .all .mn),
  (0xAAB5, .all .lo), (0xAAB7, .all .mn), (0xAAB9, .all .lo), (0xAABE, .all .mn),
  (0xAAC0, .all .lo), (0xAAC1, .all .mn), (0xAAC2, .all .lo), (0xAAC3, .all .cn),
  (0xAADB, .all .lo), (0xAADD, .all .lm), (0xAADE, .all .po), (0xAAE0, .all .lo),
  (0xAAEB, .all .mc), (0xAAEC, .all .mn), (0xAAEE, .all .mc), (0xAAF0, .all .po),
  (0xAAF2, .all .lo), (0xAAF3, .all .lm), (0xAAF5, .all .mc), (0xAAF6, .all .mn),
  (0xAAF7, .all .cn), (0xAB01, .all .lo), (0xAB07, .all .cn), (0xAB09, .all .lo),
  (0xAB0F, .all .cn), (0xAB11, .all .lo), (0xAB17, .all .cn), (0xAB20, .all .lo),
  (0xAB27, .all .cn), (0xAB28, .all .lo), (0xAB2F, .all .cn), (0xAB30, .all .ll),
  (0xAB5B, .all .sk), (0xAB5C, .all .lm), (0xAB60, .all .ll), (0xAB69, .all .lm),
  (0xAB6A, .all .sk), (0xAB6C, .all .cn), (0xAB70, .all .ll), (0xABC0, .all .lo),
  (0xABE3, .all .mc), (0xABE5, .all .mn), (0xABE6, .all .mc), (0xABE8, .all .mn),
  (0xABE9, .all .mc), (0xABEB, .all .po), (0xABEC, .all .mc), (0xABED, .all .mn),
  (0xABEE, .all .cn), (0xABF0, .all .nd), (0xABFA, .all .cn), (0xAC00, .all .lo),
  (0xD7A4, .all .cn), (0xD7B0, .all .lo), (0xD7C7, .all .cn), (0xD7CB, .all .lo),
  (0xD7FC, .all .cn), (0xD800, .all .cs), (0xE000, .all .co), (0xF900, .all .lo),
  (0xFA6E, .all .cn), (0xFA70, .all .lo), (0xFADA, .all .cn), (0xFB00, .all .ll),
  (0xFB07, .all .cn), (0xFB13, .all .ll), (0xFB18, .all .cn), (0xFB1D, .all .lo),
  (0xFB1E, .all .mn), (0xFB1F, .all .lo), (0xFB29, .all .sm), (0xFB2A, .all .lo),
  (0xFB37, .all .cn), (0xFB38, .all .lo), (0xFB3D, .all .cn), (0xFB3E, .all .lo),
  (0xFB3F, .all .cn), (0xFB40, .all .lo), (0xFB42, .all .cn), (0xFB43, .all .lo),
  (0xFB45, .all .cn), (0xFB46, .all .lo), (0xFBB2, .all .sk), (0xFBC3, .all .so),
  (0xFBD3, .all .lo), (0xFD3E, .all .pe), (0xFD3F, .all .ps), (0xFD40, .all .so),
  (0xFD50, .all .lo), (0xFD90, .all .so), (0xFD92, .all .lo), (0xFDC8, .all .so),
  (0xFDD0, .all .cn), (0xFDF0, .all .lo), (0xFDFC, .all .sc), (0xFDFD, .all .so),
  (0xFE00, .all .mn), (0xFE10, .all .po), (0xFE17, .all .ps), (0xFE18, .all .pe),
  (0xFE19, .all .po), (0xFE1A, .all .cn), (0xFE20, .all .mn), (0xFE30, .all .po),
  (0xFE31, .all .pd), (0xFE33, .all .pc), (0xFE35, .all .ps), (0xFE36, .all .pe),
  (0xFE37, .all .ps), (0xFE38, .all .pe), (0xFE39, .all .ps), (0xFE3A, .all .pe),
  (0xFE3B, .all .ps), (0xFE3C, .all .pe), (0xFE3D, .all .ps), (0xFE3E, .all .pe),
  (0xFE3F, .all .ps), (0xFE40, .all .pe), (0xFE41, .all .ps), (0xFE42, .all .pe),
  (0xFE43, .all .ps), (0xFE44, .all .pe), (0xFE45, .all .po), (0xFE47, .all .ps),
  (0xFE48, .all .pe), (0xFE49, .all .po), (0xFE4D, .all .pc), (0xFE50, .all .po),
  (0xFE53, .all .cn), (0xFE54, .all .po), (0xFE58, .all .pd), (0xFE59, .all .ps),
  (0xFE5A, .all .pe), (0xFE5B, .all .ps), (0xFE5C, .all .pe), (0xFE5D, .all .ps),
  (0xFE5E, .all .pe), (0xFE5F, .all .po), (0xFE62, .all .sm), (0xFE63, .all .pd),
  (0xFE64, .all .sm), (0xFE67, .all .cn), (0xFE68, .all .po), (0xFE69, .all .sc),
  (0xFE6A, .all .po), (0xFE6C, .all .cn), (0xFE70, .all .lo), (0xFE75, .all .cn),
  (0xFE76, .all .lo), (0xFEFD, .all .cn), (0xFEFF, .all .cf), (0xFF00, .all .cn),
  (0xFF01, .all .po), (0xFF04, .all .sc), (0xFF05, .all .po), (0xFF08, .all .ps),
  (0xFF09, .all .pe), (0xFF0A, .all .po), (0xFF0B, .all .sm), (0xFF0C, .all .po),
  (0xFF0D, .all .pd), (0xFF0E, .all .po), (0xFF10, .all .nd), (0xFF1A, .all .po),
  (0xFF1C, .all .sm), (0xFF1F, .all .po), (0xFF21, .all .lu), (0xFF3B, .all .ps),
  (0xFF3C, .all .po), (0xFF3D, .all .pe), (0xFF3E, .all .sk), (0xFF3F, .all .pc),
  (0xFF40, .all .sk), (0xFF41, .all .ll), (0xFF5B, .all .ps), (0xFF5C, .all .sm),
  (0xFF5D, .all .pe), (0xFF5E, .all .sm), (0xFF5F, .all .ps), (0xFF60, .all .pe),
  (0xFF61, .all .po), (0xFF62, .all .ps), (0xFF63, .all .pe), (0xFF64, .all .po),
  (0xFF66, .all .lo), (0xFF70, .all .lm), (0xFF71, .all .lo), (0xFF9E, .all .lm),
  (0xFFA0, .all .lo), (0xFFBF, .all .cn), (0xFFC2, .all .lo), (0xFFC8, .all .cn),
  (0xFFCA, .all .lo), (0xFFD0, .all .cn), (0xFFD2, .all .lo), (0xFFD8, .all .cn),
  (0xFFDA, .all .lo), (0xFFDD, .all .cn), (0xFFE0, .all .sc), (0xFFE2, .all .sm),
  (0xFFE3, .all .sk), (0xFFE4, .all .so), (0xFFE5, .all .sc), (0xFFE7, .all .cn),
  (0xFFE8, .all .so), (0xFFE9, .all .sm), (0xFFED, .all .so), (0xFFEF, .all .cn),
  (0xFFF9, .all .cf), (0xFFFC, .all .so), (0xFFFE, .all .cn), (0x10000, .all .lo),
  (0x1000C, .all .cn), (0x1000D, .all .lo), (0x10027, .all .cn), (0x10028, .all .lo),
  (0x1003B, .all .cn), (0x1003C, .all .lo), (0x1003E, .all .cn), (0x1003F, .all .lo),
  (0x1004E, .all .cn), (0x10050, .all .lo), (0x1005E, .all .cn), (0x10080, .all .lo),
  (0x100FB, .all .cn), (0x10100, .all .po), (0x10103, .all .cn), (0x10107, .all .no),
  (0x10134, .all .cn), (0x10137, .all .so), (0x10140, .all .nl), (0x10175, .all .no),
  (0x10179, .all .so), (0x1018A, .all .no), (0x1018C, .all .so), (0x1018F, .all .cn),
  (0x10190, .all .so), (0x1019D, .all .cn), (0x101A0, .all .so), (0x101A1, .all .cn),
  (0x101D0, .all .so), (0x101FD, .all .mn), (0x101FE, .all .cn), (0x10280, .all .lo),
  (0x1029D, .all .cn), (0x102A0, .all .lo), (0x102D1, .all .cn), (0x102E0, .all .mn),
  (0x102E1, .all .no), (0x102FC, .all .cn), (0x10300, .all .lo), (0x10320, .all .no),
  (0x10324, .all .cn), (0x1032D, .all .lo), (0x10341, .all .nl), (0x10342, .all .lo),
  (0x1034A, .all .nl), (0x1034B, .all .cn), (0x10350, .all .lo), (0x10376, .all .mn),
  (0x1037B, .all .cn), (0x10380, .all .lo), (0x1039E, .all .cn), (0x1039F, .all .po),
  (0x103A0, .all .lo), (0x103C4, .all .cn), (0x103C8, .all .lo), (0x103D0, .all .po),
  (0x103D1, .all .nl), (0x103D6, .all .cn), (0x10400, .all .lu), (0x10428, .all .ll),
  (0x10450, .all .lo), (0x1049E, .all .cn), (0x104A0, .all .nd), (0x104AA, .all .cn),
  (0x104B0, .all .lu), (0x104D4, .all .cn), (0x104D8, .all .ll), (0x104FC, .all .cn),
  (0x10500, .all .lo), (0x10528, .all .cn), (0x10530, .all .lo), (0x10564, .all .cn),
  (0x1056F, .all .po), (0x10570, .all .lu), (0x1057B, .all .cn), (0x1057C, .all .lu),
  (0x1058B, .all .cn), (0x1058C, .all .lu), (0x10593, .all .cn), (0x10594, .all .lu),
  (0x10596, .all .cn), (0x10597, .all .ll), (0x105A2, .all .cn), (0x105A3, .all .ll),
  (0x105B2, .all .cn), (0x105B3, .all .ll), (0x105BA, .all .cn), (0x105BB, .all .ll),
  (0x105BD, .all .cn), (0x105C0, .all .lo), (0x105F4, .all .cn), (0x10600, .all .lo),
  (0x10737, .all .cn), (0x10740, .all .lo), (0x10756, .all .cn), (0x10760, .all .lo),
  (0x10768, .all .cn), (0x10780, .all .lm), (0x10786, .all .cn), (0x10787, .all .lm),
  (0x107B1, .all .cn), (0x107B2, .all .lm), (0x107BB, .all .cn), (0x10800, .all .lo),
  (0x10806, .all .cn), (0x10808, .all .lo), (0x10809, .all .cn), (0x1080A, .all .lo),
  (0x10836, .all .cn), (0x10837, .all .lo), (0x10839, .all .cn), (0x1083C, .all .lo),
  (0x1083D, .all .cn), (0x1083F, .all .lo), (0x10856, .all .cn), (0x10857, .all .po),
  (0x10858, .all .no), (0x10860, .all .lo), (0x10877, .all .so), (0x10879, .all .no),
  (0x10880, .all .lo), (0x1089F, .all .cn), (0x108A7, .all .no), (0x108B0, .all .cn),
  (0x108E0, .all .lo), (0x108F3, .all .cn), (0x108F4, .all .lo), (0x108F6, .all .cn),
  (0x108FB, .all .no), (0x10900, .all .lo), (0x10916, .all .no), (0x1091C, .all .cn),
  (0x1091F, .all .po), (0x10920, .all .lo), (0x1093A, .all .cn), (0x1093F, .all .po),
  (0x10940, .all .lo), (0x1095A, .all .cn), (0x10980, .all .lo), (0x109B8, .all .cn),
  (0x109BC, .all .no), (0x109BE, .all .lo), (0x109C0, .all .no), (0x109D0, .all .cn),
  (0x109D2, .all .no), (0x10A00, .all .lo), (0x10A01, .all .mn), (0x10A04, .all .cn),
  (0x10A05, .all .mn), (0x10A07, .all .cn), (0x10A0C, .all .mn), (0x10A10, .all .lo),
  (0x10A14, .all .cn), (0x10A15, .all .lo), (0x10A18, .all .cn), (0x10A19, .all .lo),
  (0x10A36, .all .cn), (0x10A38, .all .mn), (0x10A3B, .all .cn), (0x10A3F, .all .mn),
  (0x10A40, .all .no), (0x10A49, .all .cn), (0x10A50, .all .po), (0x10A59, .all .cn),
  (0x10A60, .all .lo), (0x10A7D, .all .no), (0x10A7F, .all .po), (0x10A80, .all .lo),
  (0x10A9D, .all .no), (0x10AA0, .all .cn), (0x10AC0, .all .lo), (0x10AC8, .all .so),
  (0x10AC9, .all .lo), (0x10AE5, .all .mn), (0x10AE7, .all .cn), (0x10AEB, .all .no),
  (0x10AF0, .all .po), (0x10AF7, .all .cn), (0x10B00, .all .lo), (0x10B36, .all .cn),
  (0x10B39, .all .po), (0x10B40, .all .lo), (0x10B56, .all .cn), (0x10B58, .all .no),
  (0x10B60, .all .lo), (0x10B73, .all .cn), (0x10B78, .all .no), (0x10B80, .all .lo),
  (0x10B92, .all .cn), (0x10B99, .all .po), (0x10B9D, .all .cn), (0x10BA9, .all .no),
  (0x10BB0, .all .cn), (0x10C00, .all .lo), (0x10C49, .all .cn), (0x10C80, .all .lu),
  (0x10CB3, .all .cn), (0x10CC0, .all .ll), (0x10CF3, .all .cn), (0x10CFA, .all .no),
  (0x10D00, .all .lo), (0x10D24, .all .mn), (0x10D28, .all .cn), (0x10D30, .all .nd),
  (0x10D3A, .all .cn), (0x10D40, .all .nd), (0x10D4A, .all .lo), (0x10D4E, .all .lm),
  (0x10D4F, .all .lo), (0x10D50, .all .lu), (0x10D66, .all .cn), (0x10D69, .all .mn),
  (0x10D6E, .all .pd), (0x10D6F, .all .lm), (0x10D70, .all .ll), (0x10D86, .all .cn),
  (0x10D8E, .all .sm), (0x10D90, .all .cn), (0x10E60, .all .no), (0x10E7F, .all .cn),
  (0x10E80, .all .lo), (0x10EAA, .all .cn), (0x10EAB, .all .mn), (0x10EAD, .all .pd),
  (0x10EAE, .all .cn), (0x10EB0, .all .lo), (0x10EB2, .all .cn), (0x10EC2, .all .lo),
  (0x10EC5, .all .lm), (0x10EC6, .all .lo), (0x10EC8, .all .cn), (0x10ED0, .all .po),
  (0x10ED1, .all .so), (0x10ED9, .all .cn), (0x10EFA, .all .mn), (0x10F00, .all .lo),
  (0x10F1D, .all .no), (0x10F27, .all .lo), (0x10F28, .all .cn), (0x10F30, .all .lo),
  (0x10F46, .all .mn), (0x10F51, .all .no), (0x10F55, .all .po), (0x10F5A, .all .cn),
  (0x10F70, .all .lo), (0x10F82, .all .mn), (0x10F86, .all .po), (0x10F8A, .all .cn),
  (0x10FB0, .all .lo), (0x10FC5, .all .no), (0x10FCC, .all .cn), (0x10FE0, .all .lo),
  (0x10FF7, .all .cn), (0x11000, .all .mc), (0x11001, .all .mn), (0x11002, .all .mc),
  (0x11003, .all .lo), (0x11038, .all .mn), (0x11047, .all .po), (0x1104E, .all .cn),
  (0x11052, .all .no), (0x11066, .all .nd), (0x11070, .all .mn), (0x11071, .all .lo),
  (0x11073, .all .mn), (0x11075, .all .lo), (0x11076, .all .cn), (0x1107F, .all .mn),
  (0x11082, .all .mc), (0x11083, .all .lo), (0x110B0, .all .mc), (0x110B3, .all .mn),
  (0x110B7, .all .mc), (0x110B9, .all .mn), (0x110BB, .all .po), (0x110BD, .all .cf),
  (0x110BE, .all .po), (0x110C2, .all .mn), (0x110C3, .all .cn), (0x110CD, .all .cf),
  (0x110CE, .all .cn), (0x110D0, .all .lo), (0x110E9, .all .cn), (0x110F0, .all .nd),
  (0x110FA, .all .cn), (0x11100, .all .mn), (0x11103, .all .lo), (0x11127, .all .mn),
  (0x1112C, .all .mc), (0x1112D, .all .mn), (0x11135, .all .cn), (0x11136, .all .nd),
  (0x11140, .all .po), (0x11144, .all .lo), (0x11145, .all .mc), (0x11147, .all .lo),
  (0x11148, .all .cn), (0x11150, .all .lo), (0x11173, .all .mn), (0x11174, .all .po),
  (0x11176, .all .lo), (0x11177, .all .cn), (0x11180, .all .mn), (0x11182, .all .mc),
  (0x11183, .all .lo), (0x111B3, .all .mc), (0x111B6, .all .mn), (0x111BF, .all .mc),
  (0x111C1, .all .lo), (0x111C5, .all .po), (0x111C9, .all .mn), (0x111CD, .all .po),
  (0x111CE, .all .mc), (0x111CF, .all .mn), (0x111D0, .all .nd), (0x111DA, .all .lo),
  (0x111DB, .all .po), (0x111DC, .all .lo), (0x111DD, .all .po), (0x111E0, .all .cn),
  (0x111E1, .all .no), (0x111F5, .all .cn), (0x11200, .all .lo), (0x11212, .all .cn),
  (0x11213, .all .lo), (0x1122C, .all .mc), (0x1122F, .all .mn), (0x11232, .all .mc),
  (0x11234, .all .mn), (0x11235, .all .mc), (0x11236, .all .mn), (0x11238, .all .po),
  (0x1123E, .all .mn), (0x1123F, .all .lo), (0x11241, .all .mn), (0x11242, .all .cn),
  (0x11280, .all .lo), (0x11287, .all .cn), (0x11288, .all .lo), (0x11289, .all .cn),
  (0x1128A, .all .lo), (0x1128E, .all .cn), (0x1128F, .all .lo), (0x1129E, .all .cn),
  (0x1129F, .all .lo), (0x112A9, .all .po), (0x112AA, .all .cn), (0x112B0, .all .lo),
  (0x112DF, .all .mn), (0x112E0, .all .mc), (0x112E3, .all .mn), (0x112EB, .all .cn),
  (0x112F0, .all .nd), (0x112FA, .all .cn), (0x11300, .all .mn), (0x11302, .all .mc),
  (0x11304, .all .cn), (0x11305, .all .lo), (0x1130D, .all .cn), (0x1130F, .all .lo),
  (0x11311, .all .cn), (0x11313, .all .lo), (0x11329, .all .cn), (0x1132A, .all .lo),
  (0x11331, .all .cn), (0x11332, .all .lo), (0x11334, .all .cn), (0x11335, .all .lo),
  (0x1133A, .all .cn), (0x1133B, .all .mn), (0x1133D, .all .lo), (0x1133E, .all .mc),
  (0x11340, .all .mn), (0x11341, .all .mc), (0x11345, .all .cn), (0x11347, .all .mc),
  (0x11349, .all .cn), (0x1134B, .all .mc), (0x1134E, .all .cn), (0x11350, .all .lo),
  (0x11351, .all .cn), (0x11357, .all .mc), (0x11358, .all .cn), (0x1135D, .all .lo),
  (0x11362, .all .mc), (0x11364, .all .cn), (0x11366, .all .mn), (0x1136D, .all .cn),
  (0x11370, .all .mn), (0x11375, .all .cn), (0x11380, .all .lo), (0x1138A, .all .cn),
  (0x1138B, .all .lo), (0x1138C, .all .cn), (0x1138E, .all .lo), (0x1138F, .all .cn),
  (0x11390, .all .lo), (0x113B6, .all .cn), (0x113B7, .all .lo), (0x113B8, .all .mc),
  (0x113BB, .all .mn), (0x113C1, .all .cn), (0x113C2, .all .mc), (0x113C3, .all .cn),
  (0x113C5, .all .mc), (0x113C6, .all .cn), (0x113C7, .all .mc), (0x113CB, .all .cn),
  (0x113CC, .all .mc), (0x113CE, .all .mn), (0x113CF, .all .mc), (0x113D0, .all .mn),
  (0x113D1, .all .lo), (0x113D2, .all .mn), (0x113D3, .all .lo), (0x113D4, .all .po),
  (0x113D6, .all .cn), (0x113D7, .all .po), (0x113D9, .all .cn), (0x113E1, .all .mn),
  (0x113E3, .all .cn), (0x11400, .all .lo), (0x11435, .all .mc), (0x11438, .all .mn),
  (0x11440, .all .mc), (0x11442, .all .mn), (0x11445, .all .mc), (0x11446, .all .mn),
  (0x11447, .all .lo), (0x1144B, .all .po), (0x11450, .all .nd), (0x1145A, .all .po),
  (0x1145C, .all .cn), (0x1145D, .all .po), (0x1145E, .all .mn), (0x1145F, .all .lo),
  (0x11462, .all .cn), (0x11480, .all .lo), (0x114B0, .all .mc), (0x114B3, .all .mn),
  (0x114B9, .all .mc), (0x114BA, .all .mn), (0x114BB, .all .mc), (0x114BF, .all .mn),
  (0x114C1, .all .mc), (0x114C2, .all .mn), (0x114C4, .all .lo), (0x114C6, .all .po),
  (0x114C7, .all .lo), (0x114C8, .all .cn), (0x114D0, .all .nd), (0x114DA, .all .cn),
  (0x11580, .all .lo), (0x115AF, .all .mc), (0x115B2, .all .mn), (0x115B6, .all .cn),
  (0x115B8, .all .mc), (0x115BC, .all .mn), (0x115BE, .all .mc), (0x115BF, .all .mn),
  (0x115C1, .all .po), (0x115D8, .all .lo), (0x115DC, .all .mn), (0x115DE, .all .cn),
  (0x11600, .all .lo), (0x11630, .all .mc), (0x11633, .all .mn), (0x1163B, .all .mc),
  (0x1163D, .all .mn), (0x1163E, .all .mc), (0x1163F, .all .mn), (0x11641, .all .po),
  (0x11644, .all .lo), (0x11645, .all .cn), (0x11650, .all .nd), (0x1165A, .all .cn),
  (0x11660, .all .po), (0x1166D, .all .cn), (0x11680, .all .lo), (0x116AB, .all .mn),
  (0x116AC, .all .mc), (0x116AD, .all .mn), (0x116AE, .all .mc), (0x116B0, .all .mn),
  (0x116B6, .all .mc), (0x116B7, .all .mn), (0x116B8, .all .lo), (0x116B9, .all .po),
  (0x116BA, .all .cn), (0x116C0, .all .nd), (0x116CA, .all .cn), (0x116D0, .all .nd),
  (0x116E4, .all .cn), (0x11700, .all .lo), (0x1171B, .all .cn), (0x1171D, .all .mn),
  (0x1171E, .all .mc), (0x1171F, .all .mn), (0x11720, .all .mc), (0x11722, .all .mn),
  (0x11726, .all .mc), (0x11727, .all .mn), (0x1172C, .all .cn), (0x11730, .all .nd),
  (0x1173A, .all .no), (0x1173C, .all .po), (0x1173F, .all .so), (0x11740, .all .lo),
  (0x11747, .all .cn), (0x11800, .all .lo), (0x1182C, .all .mc), (0x1182F, .all .mn),
  (0x11838, .all .mc), (0x11839, .all .mn), (0x1183B, .all .po), (0x1183C, .all .cn),
  (0x118A0, .all .lu), (0x118C0, .all .ll), (0x118E0, .all .nd), (0x118EA, .all .no),
  (0x118F3, .all .cn), (0x118FF, .all .lo), (0x11907, .all .cn), (0x11909, .all .lo),
  (0x1190A, .all .cn), (0x1190C, .all .lo), (0x11914, .all .cn), (0x11915, .all .lo),
  (0x11917, .all .cn), (0x11918, .all .lo), (0x11930, .all .mc), (0x11936, .all .cn),
  (0x11937, .all .mc), (0x11939, .all .cn), (0x1193B, .all .mn), (0x1193D, .all .mc),
  (0x1193E, .all .mn), (0x1193F, .all .lo), (0x11940, .all .mc), (0x11941, .all .lo),
  (0x11942, .all .mc), (0x11943, .all .mn), (0x11944, .all .po), (0x11947, .all .cn),
  (0x11950, .all .nd), (0x1195A, .all .cn), (0x119A0, .all .lo), (0x119A8, .all .cn),
  (0x119AA, .all .lo), (0x119D1, .all .mc), (0x119D4, .all .mn), (0x119D8, .all .cn),
  (0x119DA, .all .mn), (0x119DC, .all .mc), (0x119E0, .all .mn), (0x119E1, .all .lo),
  (0x119E2, .all .po), (0x119E3, .all .lo), (0x119E4, .all .mc), (0x119E5, .all .cn),
  (0x11A00, .all .lo), (0x11A01, .all .mn), (0x11A0B, .all .lo), (0x11A33, .all .mn),
  (0x11A39, .all .mc), (0x11A3A, .all .lo), (0x11A3B, .all .mn), (0x11A3F, .all .po),
  (0x11A47, .all .mn), (0x11A48, .all .cn), (0x11A50, .all .lo), (0x11A51, .all .mn),
  (0x11A57, .all .mc), (0x11A59, .all .mn), (0x11A5C, .all .lo), (0x11A8A, .all .mn),
  (0x11A97, .all .mc), (0x11A98, .all .mn), (0x11A9A, .all .po), (0x11A9D, .all .lo),
  (0x11A9E, .all .po), (0x11AA3, .all .cn), (0x11AB0, .all .lo), (0x11AF9, .all .cn),
  (0x11B00, .all .po), (0x11B0A, .all .cn), (0x11B60, .all .mn), (0x11B61, .all .mc),
  (0x11B62, .all .mn), (0x11B65, .all .mc), (0x11B66, .all .mn), (0x11B67, .all .mc),
  (0x11B68, .all .cn), (0x11BC0, .all .lo), (0x11BE1, .all .po), (0x11BE2, .all .cn),
  (0x11BF0, .all .nd), (0x11BFA, .all .cn), (0x11C00, .all .lo), (0x11C09, .all .cn),
  (0x11C0A, .all .lo), (0x11C2F, .all .mc), (0x11C30, .all .mn), (0x11C37, .all .cn),
  (0x11C38, .all .mn), (0x11C3E, .all .mc), (0x11C3F, .all .mn), (0x11C40, .all .lo),
  (0x11C41, .all .po), (0x11C46, .all .cn), (0x11C50, .all .nd), (0x11C5A, .all .no),
  (0x11C6D, .all .cn), (0x11C70, .all .po), (0x11C72, .all .lo), (0x11C90, .all .cn),
  (0x11C92, .all .mn), (0x11CA8, .all .cn), (0x11CA9, .all .mc), (0x11CAA, .all .mn),
  (0x11CB1, .all .mc), (0x11CB2, .all .mn), (0x11CB4, .all .mc), (0x11CB5, .all .mn),
  (0x11CB7, .all .cn), (0x11D00, .all .lo), (0x11D07, .all .cn), (0x11D08, .all .lo),
  (0x11D0A, .all .cn), (0x11D0B, .all .lo), (0x11D31, .all .mn), (0x11D37, .all .cn),
  (0x11D3A, .all .mn), (0x11D3B, .all .cn), (0x11D3C, .all .mn), (0x11D3E, .all .cn),
  (0x11D3F, .all .mn), (0x11D46, .all .lo), (0x11D47, .all .mn), (0x11D48, .all .cn),
  (0x11D50, .all .nd), (0x11D5A, .all .cn), (0x11D60, .all .lo), (0x11D66, .all .cn),
  (0x11D67, .all .lo), (0x11D69, .all .cn), (0x11D6A, .all .lo), (0x11D8A, .all .mc),
  (0x11D8F, .all .cn), (0x11D90, .all .mn), (0x11D92, .all .cn), (0x11D93, .all .mc),
  (0x11D95, .all .mn), (0x11D96, .all .mc), (0x11D97, .all .mn), (0x11D98, .all .lo),
  (0x11D99, .all .cn), (0x11DA0, .all .nd), (0x11DAA, .all .cn), (0x11DB0, .all .lo),
  (0x11DD9, .all .lm), (0x11DDA, .all .lo), (0x11DDC, .all .cn), (0x11DE0, .all .nd),
  (0x11DEA, .all .cn), (0x11EE0, .all .lo), (0x11EF3, .all .mn), (0x11EF5, .all .mc),
  (0x11EF7, .all .po), (0x11EF9, .all .cn), (0x11F00, .all .mn), (0x11F02, .all .lo),
  (0x11F03, .all .mc), (0x11F04, .all .lo), (0x11F11, .all .cn), (0x11F12, .all .lo),
  (0x11F34, .all .mc), (0x11F36, .all .mn), (0x11F3B, .all .cn), (0x11F3E, .all .mc),
  (0x11F40, .all .mn), (0x11F41, .all .mc), (0x11F42, .all .mn), (0x11F43, .all .po),
  (0x11F50, .all .nd), (0x11F5A, .all .mn), (0x11F5B, .all .cn), (0x11FB0, .all .lo),
  (0x11FB1, .all .cn), (0x11FC0, .all .no), (0x11FD5, .all .so), (0x11FDD, .all .sc),
  (0x11FE1, .all .so), (0x11FF2, .all .cn), (0x11FFF, .all .po), (0x12000, .all .lo),
  (0x1239A, .all .cn), (0x12400, .all .nl), (0x1246F, .all .cn), (0x12470, .all .po),
  (0x12475, .all .cn), (0x12480, .all .lo), (0x12544, .all .cn), (0x12F90, .all .lo),
  (0x12FF1, .all .po), (0x12FF3, .all .cn), (0x13000, .all .lo), (0x13430, .all .cf),
  (0x13440, .all .mn), (0x13441, .all .lo), (0x13447, .all .mn), (0x13456, .all .cn),
  (0x13460, .all .lo), (0x143FB, .all .cn), (0x14400, .all .lo), (0x14647, .all .cn),
  (0x16100, .all .lo), (0x1611E, .all .mn), (0x1612A, .all .mc), (0x1612D, .all .mn),
  (0x16130, .all .nd), (0x1613A, .all .cn), (0x16800, .all .lo), (0x16A39, .all .cn),
  (0x16A40, .all .lo), (0x16A5F, .all .cn), (0x16A60, .all .nd), (0x16A6A, .all .cn),
  (0x16A6E, .all .po), (0x16A70, .all .lo), (0x16ABF, .all .cn), (0x16AC0, .all .nd),
  (0x16ACA, .all .cn), (0x16AD0, .all .lo), (0x16AEE, .all .cn), (0x16AF0, .all .mn),
  (0x16AF5, .all .po), (0x16AF6, .all .cn), (0x16B00, .all .lo), (0x16B30, .all .mn),
  (0x16B37, .all .po), (0x16B3C, .all .so), (0x16B40, .all .lm), (0x16B44, .all .po),
  (0x16B45, .all .so), (0x16B46, .all .cn), (0x16B50, .all .nd), (0x16B5A, .all .cn),
  (0x16B5B, .all .no), (0x16B62, .all .cn), (0x16B63, .all .lo), (0x16B78, .all .cn),
  (0x16B7D, .all .lo), (0x16B90, .all .cn), (0x16D40, .all .lm), (0x16D43, .all .lo),
  (0x16D6B, .all .lm), (0x16D6D, .all .po), (0x16D70, .all .nd), (0x16D7A, .all .cn),
  (0x16E40, .all .lu), (0x16E60, .all .ll), (0x16E80, .all .no), (0x16E97, .all .po),
  (0x16E9B, .all .cn), (0x16EA0, .all .lu), (0x16EB9, .all .cn), (0x16EBB, .all .ll),
  (0x16ED4, .all .cn), (0x16F00, .all .lo), (0x16F4B, .all .cn), (0x16F4F, .all .mn),
  (0x16F50, .all .lo), (0x16F51, .all .mc), (0x16F88, .all .cn), (0x16F8F, .all .mn),
  (0x16F93, .all .lm), (0x16FA0, .all .cn), (0x16FE0, .all .lm), (0x16FE2, .all .po),
  (0x16FE3, .all .lm), (0x16FE4, .all .mn), (0x16FE5, .all .cn), (0x16FF0, .all .mc),
  (0x16FF2, .all .lm), (0x16FF4, .all .nl), (0x16FF7, .all .cn), (0x17000, .all .lo),
  (0x18CD6, .all .cn), (0x18CFF, .all .lo), (0x18D1F, .all .cn), (0x18D80, .all .lo),
  (0x18DF3, .all .cn), (0x1AFF0, .all .lm), (0x1AFF4, .all .cn), (0x1AFF5, .all .lm),
  (0x1AFFC, .all .cn), (0x1AFFD, .all .lm), (0x1AFFF, .all .cn), (0x1B000, .all .lo),
  (0x1B123, .all .cn), (0x1B132, .all .lo), (0x1B133, .all .cn), (0x1B150, .all .lo),
  (0x1B153, .all .cn), (0x1B155, .all .lo), (0x1B156, .all .cn), (0x1B164, .all .lo),
  (0x1B168, .all .cn), (0x1B170, .all .lo), (0x1B2FC, .all .cn), (0x1BC00, .all .lo),
  (0x1BC6B, .all .cn), (0x1BC70, .all .lo), (0x1BC7D, .all .cn), (0x1BC80, .all .lo),
  (0x1BC89, .all .cn), (0x1BC90, .all .lo), (0x1BC9A, .all .cn), (0x1BC9C, .all .so),
  (0x1BC9D, .all .mn), (0x1BC9F, .all .po), (0x1BCA0, .all .cf), (0x1BCA4, .all .cn),
  (0x1CC00, .all .so), (0x1CCF0, .all .nd), (0x1CCFA, .all .so), (0x1CCFD, .all .cn),
  (0x1CD00, .all .so), (0x1CEB4, .all .cn), (0x1CEBA, .all .so), (0x1CED1, .all .cn),
  (0x1CEE0, .all .so), (0x1CEF0, .all .sm), (0x1CEF1, .all .cn), (0x1CF00, .all .mn),
  (0x1CF2E, .all .cn), (0x1CF30, .all .mn), (0x1CF47, .all .cn), (0x1CF50, .all .so),
  (0x1CFC4, .all .cn), (0x1D000, .all .so), (0x1D0F6, .all .cn), (0x1D100, .all .so),
  (0x1D127, .all .cn), (0x1D129, .all .so), (0x1D165, .all .mc), (0x1D167, .all .mn),
  (0x1D16A, .all .so), (0x1D16D, .all .mc), (0x1D173, .all .cf), (0x1D17B, .all .mn),
  (0x1D183, .all .so), (0x1D185, .all .mn), (0x1D18C, .all .so), (0x1D1AA, .all .mn),
  (0x1D1AE, .all .so), (0x1D1EB, .all .cn), (0x1D200, .all .so), (0x1D242, .all .mn),
  (0x1D245, .all .so), (0x1D246, .all .cn), (0x1D2C0, .all .no), (0x1D2D4, .all .cn),
  (0x1D2E0, .all .no), (0x1D2F4, .all .cn), (0x1D300, .all .so), (0x1D357, .all .cn),
  (0x1D360, .all .no), (0x1D379, .all .cn), (0x1D400, .all .lu), (0x1D41A, .all .ll),
  (0x1D434, .all .lu), (0x1D44E, .all .ll), (0x1D455, .all .cn), (0x1D456, .all .ll),
  (0x1D468, .all .lu), (0x1D482, .all .ll), (0x1D49C, .all .lu), (0x1D49D, .all .cn),
  (0x1D49E, .all .lu), (0x1D4A0, .all .cn), (0x1D4A2, .all .lu), (0x1D4A3, .all .cn),
  (0x1D4A5, .all .lu), (0x1D4A7, .all .cn), (0x1D4A9, .all .lu), (0x1D4AD, .all .cn),
  (0x1D4AE, .all .lu), (0x1D4B6, .all .ll), (0x1D4BA, .all .cn), (0x1D4BB, .all .ll),
  (0x1D4BC, .all .cn), (0x1D4BD, .all .ll), (0x1D4C4, .all .cn), (0x1D4C5, .all .ll),
  (0x1D4D0, .all .lu), (0x1D4EA, .all .ll), (0x1D504, .all .lu), (0x1D506, .all .cn),
  (0x1D507, .all .lu), (0x1D50B, .all .cn), (0x1D50D, .all .lu), (0x1D515, .all .cn),
  (0x1D516, .all .lu), (0x1D51D, .all .cn), (0x1D51E, .all .ll), (0x1D538, .all .lu),
  (0x1D53A, .all .cn), (0x1D53B, .all .lu), (0x1D53F, .all .cn), (0x1D540, .all .lu),
  (0x1D545, .all .cn), (0x1D546, .all .lu), (0x1D547, .all .cn), (0x1D54A, .all .lu),
  (0x1D551, .all .cn), (0x1D552, .all .ll), (0x1D56C, .all .lu), (0x1D586, .all .ll),
  (0x1D5A0, .all .lu), (0x1D5BA, .all .ll), (0x1D5D4, .all .lu), (0x1D5EE, .all .ll),
  (0x1D608, .all .lu), (0x1D622, .all .ll), (0x1D63C, .all .lu), (0x1D656, .all .ll),
  (0x1D670, .all .lu), (0x1D68A, .all .ll), (0x1D6A6, .all .cn), (0x1D6A8, .all .lu),
  (0x1D6C1, .all .sm), (0x1D6C2, .all .ll), (0x1D6DB, .all .sm), (0x1D6DC, .all .ll),
  (0x1D6E2, .all .lu), (0x1D6FB, .all .sm), (0x1D6FC, .all .ll), (0x1D715, .all .sm),
  (0x1D716, .all .ll), (0x1D71C, .all .lu), (0x1D735, .all .sm), (0x1D736, .all .ll),
  (0x1D74F, .all .sm), (0x1D750, .all .ll), (0x1D756, .all .lu), (0x1D76F, .all .sm),
  (0x1D770, .all .ll), (0x1D789, .all .sm), (0x1D78A, .all .ll), (0x1D790, .all .lu),
  (0x1D7A9, .all .sm), (0x1D7AA, .all .ll), (0x1D7C3, .all .sm), (0x1D7C4, .all .ll),
  (0x1D7CA, .all .lu), (0x1D7CB, .all .ll), (0x1D7CC, .all .cn), (0x1D7CE, .all .nd),
  (0x1D800, .all .so), (0x1DA00, .all .mn), (0x1DA37, .all .so), (0x1DA3B, .all .mn),
  (0x1DA6D, .all .so), (0x1DA75, .all .mn), (0x1DA76, .all .so), (0x1DA84, .all .mn),
  (0x1DA85, .all .so), (0x1DA87, .all .po), (0x1DA8C, .all .cn), (0x1DA9B, .all .mn),
  (0x1DAA0, .all .cn), (0x1DAA1, .all .mn), (0x1DAB0, .all .cn), (0x1DF00, .all .ll),
  (0x1DF0A, .all .lo), (0x1DF0B, .all .ll), (0x1DF1F, .all .cn), (0x1DF25, .all .ll),
  (0x1DF2B, .all .cn), (0x1E000, .all .mn), (0x1E007, .all .cn), (0x1E008, .all .mn),
  (0x1E019, .all .cn), (0x1E01B, .all .mn), (0x1E022, .all .cn), (0x1E023, .all .mn),
  (0x1E025, .all .cn), (0x1E026, .all .mn), (0x1E02B, .all .cn), (0x1E030, .all .lm),
  (0x1E06E, .all .cn), (0x1E08F, .all .mn), (0x1E090, .all .cn), (0x1E100, .all .lo),
  (0x1E12D, .all .cn), (0x1E130, .all .mn), (0x1E137, .all .lm), (0x1E13E, .all .cn),
  (0x1E140, .all .nd), (0x1E14A, .all .cn), (0x1E14E, .all .lo), (0x1E14F, .all .so),
  (0x1E150, .all .cn), (0x1E290, .all .lo), (0x1E2AE, .all .mn), (0x1E2AF, .all .cn),
  (0x1E2C0, .all .lo), (0x1E2EC, .all .mn), (0x1E2F0, .all .nd), (0x1E2FA, .all .cn),
  (0x1E2FF, .all .sc), (0x1E300, .all .cn), (0x1E4D0, .all .lo), (0x1E4EB, .all .lm),
  (0x1E4EC, .all .mn), (0x1E4F0, .all .nd), (0x1E4FA, .all .cn), (0x1E5D0, .all .lo),
  (0x1E5EE, .all .mn), (0x1E5F0, .all .lo), (0x1E5F1, .all .nd), (0x1E5FB, .all .cn),
  (0x1E5FF, .all .po), (0x1E600, .all .cn), (0x1E6C0, .all .lo), (0x1E6DF, .all .cn),
  (0x1E6E0, .all .lo), (0x1E6E3, .all .mn), (0x1E6E4, .all .lo), (0x1E6E6, .all .mn),
  (0x1E6E7, .all .lo), (0x1E6EE, .all .mn), (0x1E6F0, .all .lo), (0x1E6F5, .all .mn),
  (0x1E6F6, .all .cn), (0x1E6FE, .all .lo), (0x1E6FF, .all .lm), (0x1E700, .all .cn),
  (0x1E7E0, .all .lo), (0x1E7E7, .all .cn), (0x1E7E8, .all .lo), (0x1E7EC, .all .cn),
  (0x1E7ED, .all .lo), (0x1E7EF, .all .cn), (0x1E7F0, .all .lo), (0x1E7FF, .all .cn),
  (0x1E800, .all .lo), (0x1E8C5, .all .cn), (0x1E8C7, .all .no), (0x1E8D0, .all .mn),
  (0x1E8D7, .all .cn), (0x1E900, .all .lu), (0x1E922, .all .ll), (0x1E944, .all .mn),
  (0x1E94B, .all .lm), (0x1E94C, .all .cn), (0x1E950, .all .nd), (0x1E95A, .all .cn),
  (0x1E95E, .all .po), (0x1E960, .all .cn), (0x1EC71, .all .no), (0x1ECAC, .all .so),
  (0x1ECAD, .all .no), (0x1ECB0, .all .sc), (0x1ECB1, .all .no), (0x1ECB5, .all .cn),
  (0x1ED01, .all .no), (0x1ED2E, .all .so), (0x1ED2F, .all .no), (0x1ED3E, .all .cn),
  (0x1EE00, .all .lo), (0x1EE04, .all .cn), (0x1EE05, .all .lo), (0x1EE20, .all .cn),
  (0x1EE21, .all .lo), (0x1EE23, .all .cn), (0x1EE24, .all .lo), (0x1EE25, .all .cn),
  (0x1EE27, .all .lo), (0x1EE28, .all .cn), (0x1EE29, .all .lo), (0x1EE33, .all .cn),
  (0x1EE34, .all .lo), (0x1EE38, .all .cn), (0x1EE39, .all .lo), (0x1EE3A, .all .cn),
  (0x1EE3B, .all .lo), (0x1EE3C, .all .cn), (0x1EE42, .all .lo), (0x1EE43, .all .cn),
  (0x1EE47, .all .lo), (0x1EE48, .all .cn), (0x1EE49, .all .lo), (0x1EE4A, .all .cn),
  (0x1EE4B, .all .lo), (0x1EE4C, .all .cn), (0x1EE4D, .all .lo), (0x1EE50, .all .cn),
  (0x1EE51, .all .lo), (0x1EE53, .all .cn), (0x1EE54, .all .lo), (0x1EE55, .all .cn),
  (0x1EE57, .all .lo), (0x1EE58, .all .cn), (0x1EE59, .all .lo), (0x1EE5A, .all .cn),
  (0x1EE5B, .all .lo), (0x1EE5C, .all .cn), (0x1EE5D, .all .lo), (0x1EE5E, .all .cn),
  (0x1EE5F, .all .lo), (0x1EE60, .all .cn), (0x1EE61, .all .lo), (0x1EE63, .all .cn),
  (0x1EE64, .all .lo), (0x1EE65, .all .cn), (0x1EE67, .all .lo), (0x1EE6B, .all .cn),
  (0x1EE6C, .all .lo), (0x1EE73, .all .cn), (0x1EE74, .all .lo), (0x1EE78, .all .cn),
  (0x1EE79, .all .lo), (0x1EE7D, .all .cn), (0x1EE7E, .all .lo), (0x1EE7F, .all .cn),
  (0x1EE80, .all .lo), (0x1EE8A, .all .cn), (0x1EE8B, .all .lo), (0x1EE9C, .all .cn),
  (0x1EEA1, .all .lo), (0x1EEA4, .all .cn), (0x1EEA5, .all .lo), (0x1EEAA, .all .cn),
  (0x1EEAB, .all .lo), (0x1EEBC, .all .cn), (0x1EEF0, .all .sm), (0x1EEF2, .all .cn),
  (0x1F000, .all .so), (0x1F02C, .all .cn), (0x1F030, .all .so), (0x1F094, .all .cn),
  (0x1F0A0, .all .so), (0x1F0AF, .all .cn), (0x1F0B1, .all .so), (0x1F0C0, .all .cn),
  (0x1F0C1, .all .so), (0x1F0D0, .all .cn), (0x1F0D1, .all .so), (0x1F0F6, .all .cn),
  (0x1F100, .all .no), (0x1F10D, .all .so), (0x1F1AE, .all .cn), (0x1F1E6, .all .so),
  (0x1F203, .all .cn), (0x1F210, .all .so), (0x1F23C, .all .cn), (0x1F240, .all .so),
  (0x1F249, .all .cn), (0x1F250, .all .so), (0x1F252, .all .cn), (0x1F260, .all .so),
  (0x1F266, .all .cn), (0x1F300, .all .so), (0x1F3FB, .all .sk), (0x1F400, .all .so),
  (0x1F6D9, .all .cn), (0x1F6DC, .all .so), (0x1F6ED, .all .cn), (0x1F6F0, .all .so),
  (0x1F6FD, .all .cn), (0x1F700, .all .so), (0x1F7DA, .all .cn), (0x1F7E0, .all .so),
  (0x1F7EC, .all .cn), (0x1F7F0, .all .so), (0x1F7F1, .all .cn), (0x1F800, .all .so),
  (0x1F80C, .all .cn), (0x1F810, .all .so), (0x1F848, .all .cn), (0x1F850, .all .so),
  (0x1F85A, .all .cn), (0x1F860, .all .so), (0x1F888, .all .cn), (0x1F890, .all .so),
  (0x1F8AE, .all .cn), (0x1F8B0, .all .so), (0x1F8BC, .all .cn), (0x1F8C0, .all .so),
  (0x1F8C2, .all .cn), (0x1F8D0, .all .sm), (0x1F8D9, .all .cn), (0x1F900, .all .so),
  (0x1FA58, .all .cn), (0x1FA60, .all .so), (0x1FA6E, .all .cn), (0x1FA70, .all .so),
  (0x1FA7D, .all .cn), (0x1FA80, .all .so), (0x1FA8B, .all .cn), (0x1FA8E, .all .so),
  (0x1FAC7, .all .cn), (0x1FAC8, .all .so), (0x1FAC9, .all .cn), (0x1FACD, .all .so),
  (0x1FADD, .all .cn), (0x1FADF, .all .so), (0x1FAEB, .all .cn), (0x1FAEF, .all .so),
  (0x1FAF9, .all .cn), (0x1FB00, .all .so), (0x1FB93, .all .cn), (0x1FB94, .all .so),
  (0x1FBF0, .all .nd), (0x1FBFA, .all .so), (0x1FBFB, .all .cn), (0x20000, .all .lo),
  (0x2A6E0, .all .cn), (0x2A700, .all .lo), (0x2B81E, .all .cn), (0x2B820, .all .lo),
  (0x2CEAE, .all .cn), (0x2CEB0, .all .lo), (0x2EBE1, .all .cn), (0x2EBF0, .all .lo),
  (0x2EE5E, .all .cn), (0x2F800, .all .lo), (0x2FA1E, .all .cn), (0x30000, .all .lo),
  (0x3134B, .all .cn), (0x31350, .all .lo), (0x3347A, .all .cn), (0xE0001, .all .cf),
  (0xE0002, .all .cn), (0xE0020, .all .cf), (0xE0080, .all .cn), (0xE0100, .all .mn),
  (0xE01F0, .all .cn), (0xF0000, .all .co), (0xFFFFE, .all .cn), (0x100000, .all .co),
  (0x10FFFE, .all .cn)]

def categoryOf (n : Nat) : Category :=
  let i := lastAtMost (fun i => (categoryRuns.getD i (0, .all .cn)).1) n 32 0 categoryRuns.size
  match categoryRuns[i]? with
  | some (start, run) => run.at (n - start)
  | none => .cn

end LogPipeline.Unicode

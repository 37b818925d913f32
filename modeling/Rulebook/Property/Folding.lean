import Rulebook.Text.Ranges

/-!
# Folding

The simple folding takes each character to one that stands for all that differ from it in case
alone.  Like the properties it is that of edition 16.0 of the character database.
-/

namespace Rulebook.Property

open Text

namespace Folding

def shifts : Shifts := .ofText
  "41-5a+20 b5+307 c0-d6+20 d8-de+20 100-12e/2+1 132-136/2+1 139-147/2+1 14a-176/2+1 178_79
  179-17d/2+1 17f_10c 181+d2 182-184/2+1 186+ce 187+1 189-18a+cd 18b+1 18e+4f 18f+ca 190+cb
  191+1 193+cd 194+cf 196+d3 197+d1 198+1 19c+d3 19d+d5 19f+d6 1a0-1a4/2+1 1a6+da 1a7+1 1a9+da
  1ac+1 1ae+da 1af+1 1b1-1b2+d9 1b3-1b5/2+1 1b7+db 1b8+1 1bc+1 1c4+2 1c5+1 1c7+2 1c8+1 1ca+2
  1cb-1db/2+1 1de-1ee/2+1 1f1+2 1f2-1f4/2+1 1f6_61 1f7_38 1f8-21e/2+1 220_82 222-232/2+1
  23a+2a2b 23b+1 23d_a3 23e+2a28 241+1 243_c3 244+45 245+47 246-24e/2+1 345+74 370-372/2+1 376+1
  37f+74 386+26 388-38a+25 38c+40 38e-38f+3f 391-3a1+20 3a3-3ab+20 3c2+1 3cf+8 3d0_1e 3d1_19
  3d5_f 3d6_16 3d8-3ee/2+1 3f0_36 3f1_30 3f4_3c 3f5_40 3f7+1 3f9_7 3fa+1 3fd-3ff_82 400-40f+50
  410-42f+20 460-480/2+1 48a-4be/2+1 4c0+f 4c1-4cd/2+1 4d0-52e/2+1 531-556+30 10a0-10c5+1c60
  10c7+1c60 10cd+1c60 13f8-13fd_8 1c80_184e 1c81_184d 1c82_1844 1c83-1c84_1842 1c85_1843
  1c86_183c 1c87_1824 1c88+89c3 1c89+1 1c90-1cba_bc0 1cbd-1cbf_bc0 1e00-1e94/2+1 1e9b_3a
  1e9e_1dbf 1ea0-1efe/2+1 1f08-1f0f_8 1f18-1f1d_8 1f28-1f2f_8 1f38-1f3f_8 1f48-1f4d_8
  1f59-1f5f/2_8 1f68-1f6f_8 1f88-1f8f_8 1f98-1f9f_8 1fa8-1faf_8 1fb8-1fb9_8 1fba-1fbb_4a 1fbc_9
  1fbe_1c05 1fc8-1fcb_56 1fcc_9 1fd3_1c43 1fd8-1fd9_8 1fda-1fdb_64 1fe3_1c33 1fe8-1fe9_8
  1fea-1feb_70 1fec_7 1ff8-1ff9_80 1ffa-1ffb_7e 1ffc_9 2126_1d5d 212a_20bf 212b_2046 2132+1c
  2160-216f+10 2183+1 24b6-24cf+1a 2c00-2c2f+30 2c60+1 2c62_29f7 2c63_ee6 2c64_29e7
  2c67-2c6b/2+1 2c6d_2a1c 2c6e_29fd 2c6f_2a1f 2c70_2a1e 2c72+1 2c75+1 2c7e-2c7f_2a3f
  2c80-2ce2/2+1 2ceb-2ced/2+1 2cf2+1 a640-a66c/2+1 a680-a69a/2+1 a722-a72e/2+1 a732-a76e/2+1
  a779-a77b/2+1 a77d_8a04 a77e-a786/2+1 a78b+1 a78d_a528 a790-a792/2+1 a796-a7a8/2+1 a7aa_a544
  a7ab_a54f a7ac_a54b a7ad_a541 a7ae_a544 a7b0_a512 a7b1_a52a a7b2_a515 a7b3+3a0 a7b4-a7c2/2+1
  a7c4_30 a7c5_a543 a7c6_8a38 a7c7-a7c9/2+1 a7cb_a567 a7cc+1 a7d0+1 a7d6-a7da/2+1 a7dc_a641
  a7f5+1 ab70-abbf_97d0 fb05+1 ff21-ff3a+20 10400-10427+28 104b0-104d3+28 10570-10594/2+27
  10571-10579/2+27 1057d-10589/2+27 1058d-10591/2+27 10595+27 10c80-10cb2+40 10d50-10d65+20
  118a0-118bf+20 16e40-16e5f+20 1e900-1e921+22"

/-- the character that stands for all that differ from `c` in case alone -/
def fold (c : Char) : Char := shifts.apply c

/-- all characters with the folding of `c` -/
def variants (c : Char) : List Char := fold c :: shifts.sources (fold c)

/-- the characters that folding moves, each with its image -/
def pairs : List (Nat × Nat) := shifts.pairs

/-- with each character of a set those that differ from it in case alone -/
def close (r : Ranges) : Ranges :=
  let within := fun (n : Nat) => Ranges.among n r.list
  let images := Ranges.ofList ((pairs.filter fun p => within p.1 || within p.2).map fun p => (p.2, p.2))
  let sources := (pairs.filter fun p => Ranges.among p.2 images.list).map fun p => (p.1, p.1)
  .ofList (r.list ++ images.list ++ sources)

end Folding

end Rulebook.Property

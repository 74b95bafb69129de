/-
  HexGrid/BaseCell.lean --- the 122 cells of the coarsest grid.

  WHAT THIS FILE FIXES.  Base cells are numbered from north to south.  Each has a
  home face and a place on it; twelve are pentagons, one at each corner of the
  icosahedron.  `lookup` says which base cell a place of a face is, and by how many
  sixths of a turn the face is turned against the home face there.
-/
import VesselWatch.HexGrid.Coord

set_option autoImplicit false

namespace VesselWatch.HexGrid

/-- A cell of the coarsest grid. -/
structure BaseCell where
  /-- the face it is at home on -/
  face : Nat
  place : Coord
  isPentagon : Bool
  /-- the faces on which the missing direction of a pentagon is skipped clockwise -/
  clockwiseFaces : List Nat
  deriving DecidableEq, Repr, Inhabited

/-- The base cells, by number. -/
def baseCells : List BaseCell :=
  [⟨1, ⟨1, 0, 0⟩, false, []⟩, ⟨2, ⟨1, 1, 0⟩, false, []⟩, ⟨1, ⟨0, 0, 0⟩, false, []⟩, 
   ⟨2, ⟨1, 0, 0⟩, false, []⟩, ⟨0, ⟨2, 0, 0⟩, true, []⟩, ⟨1, ⟨1, 1, 0⟩, false, []⟩, 
   ⟨1, ⟨0, 0, 1⟩, false, []⟩, ⟨2, ⟨0, 0, 0⟩, false, []⟩, ⟨0, ⟨1, 0, 0⟩, false, []⟩, 
   ⟨2, ⟨0, 1, 0⟩, false, []⟩, ⟨1, ⟨0, 1, 0⟩, false, []⟩, ⟨1, ⟨0, 1, 1⟩, false, []⟩, 
   ⟨3, ⟨1, 0, 0⟩, false, []⟩, ⟨3, ⟨1, 1, 0⟩, false, []⟩, ⟨11, ⟨2, 0, 0⟩, true, [2, 6]⟩, 
   ⟨4, ⟨1, 0, 0⟩, false, []⟩, ⟨0, ⟨0, 0, 0⟩, false, []⟩, ⟨6, ⟨0, 1, 0⟩, false, []⟩, 
   ⟨0, ⟨0, 0, 1⟩, false, []⟩, ⟨2, ⟨0, 1, 1⟩, false, []⟩, ⟨7, ⟨0, 0, 1⟩, false, []⟩, 
   ⟨2, ⟨0, 0, 1⟩, false, []⟩, ⟨0, ⟨1, 1, 0⟩, false, []⟩, ⟨6, ⟨0, 0, 1⟩, false, []⟩, 
   ⟨10, ⟨2, 0, 0⟩, true, [1, 5]⟩, ⟨6, ⟨0, 0, 0⟩, false, []⟩, ⟨3, ⟨0, 0, 0⟩, false, []⟩, 
   ⟨11, ⟨1, 0, 0⟩, false, []⟩, ⟨4, ⟨1, 1, 0⟩, false, []⟩, ⟨3, ⟨0, 1, 0⟩, false, []⟩, 
   ⟨0, ⟨0, 1, 1⟩, false, []⟩, ⟨4, ⟨0, 0, 0⟩, false, []⟩, ⟨5, ⟨0, 1, 0⟩, false, []⟩, 
   ⟨0, ⟨0, 1, 0⟩, false, []⟩, ⟨7, ⟨0, 1, 0⟩, false, []⟩, ⟨11, ⟨1, 1, 0⟩, false, []⟩, 
   ⟨7, ⟨0, 0, 0⟩, false, []⟩, ⟨10, ⟨1, 0, 0⟩, false, []⟩, ⟨12, ⟨2, 0, 0⟩, true, [3, 7]⟩, 
   ⟨6, ⟨1, 0, 1⟩, false, []⟩, ⟨7, ⟨1, 0, 1⟩, false, []⟩, ⟨4, ⟨0, 0, 1⟩, false, []⟩, 
   ⟨3, ⟨0, 0, 1⟩, false, []⟩, ⟨3, ⟨0, 1, 1⟩, false, []⟩, ⟨4, ⟨0, 1, 0⟩, false, []⟩, 
   ⟨6, ⟨1, 0, 0⟩, false, []⟩, ⟨11, ⟨0, 0, 0⟩, false, []⟩, ⟨8, ⟨0, 0, 1⟩, false, []⟩, 
   ⟨5, ⟨0, 0, 1⟩, false, []⟩, ⟨14, ⟨2, 0, 0⟩, true, [0, 9]⟩, ⟨5, ⟨0, 0, 0⟩, false, []⟩, 
   ⟨12, ⟨1, 0, 0⟩, false, []⟩, ⟨10, ⟨1, 1, 0⟩, false, []⟩, ⟨4, ⟨0, 1, 1⟩, false, []⟩, 
   ⟨12, ⟨1, 1, 0⟩, false, []⟩, ⟨7, ⟨1, 0, 0⟩, false, []⟩, ⟨11, ⟨0, 1, 0⟩, false, []⟩, 
   ⟨10, ⟨0, 0, 0⟩, false, []⟩, ⟨13, ⟨2, 0, 0⟩, true, [4, 8]⟩, ⟨10, ⟨0, 0, 1⟩, false, []⟩, 
   ⟨11, ⟨0, 0, 1⟩, false, []⟩, ⟨9, ⟨0, 1, 0⟩, false, []⟩, ⟨8, ⟨0, 1, 0⟩, false, []⟩, 
   ⟨6, ⟨2, 0, 0⟩, true, [11, 15]⟩, ⟨8, ⟨0, 0, 0⟩, false, []⟩, ⟨9, ⟨0, 0, 1⟩, false, []⟩, 
   ⟨14, ⟨1, 0, 0⟩, false, []⟩, ⟨5, ⟨1, 0, 1⟩, false, []⟩, ⟨16, ⟨0, 1, 1⟩, false, []⟩, 
   ⟨8, ⟨1, 0, 1⟩, false, []⟩, ⟨5, ⟨1, 0, 0⟩, false, []⟩, ⟨12, ⟨0, 0, 0⟩, false, []⟩, 
   ⟨7, ⟨2, 0, 0⟩, true, [12, 16]⟩, ⟨12, ⟨0, 1, 0⟩, false, []⟩, ⟨10, ⟨0, 1, 0⟩, false, []⟩, 
   ⟨9, ⟨0, 0, 0⟩, false, []⟩, ⟨13, ⟨1, 0, 0⟩, false, []⟩, ⟨16, ⟨0, 0, 1⟩, false, []⟩, 
   ⟨15, ⟨0, 1, 1⟩, false, []⟩, ⟨15, ⟨0, 1, 0⟩, false, []⟩, ⟨16, ⟨0, 1, 0⟩, false, []⟩, 
   ⟨14, ⟨1, 1, 0⟩, false, []⟩, ⟨13, ⟨1, 1, 0⟩, false, []⟩, ⟨5, ⟨2, 0, 0⟩, true, [10, 19]⟩, 
   ⟨8, ⟨1, 0, 0⟩, false, []⟩, ⟨14, ⟨0, 0, 0⟩, false, []⟩, ⟨9, ⟨1, 0, 1⟩, false, []⟩, 
   ⟨14, ⟨0, 0, 1⟩, false, []⟩, ⟨17, ⟨0, 0, 1⟩, false, []⟩, ⟨12, ⟨0, 0, 1⟩, false, []⟩, 
   ⟨16, ⟨0, 0, 0⟩, false, []⟩, ⟨17, ⟨0, 1, 1⟩, false, []⟩, ⟨15, ⟨0, 0, 1⟩, false, []⟩, 
   ⟨16, ⟨1, 0, 1⟩, false, []⟩, ⟨9, ⟨1, 0, 0⟩, false, []⟩, ⟨15, ⟨0, 0, 0⟩, false, []⟩, 
   ⟨13, ⟨0, 0, 0⟩, false, []⟩, ⟨8, ⟨2, 0, 0⟩, true, [13, 17]⟩, ⟨13, ⟨0, 1, 0⟩, false, []⟩, 
   ⟨17, ⟨1, 0, 1⟩, false, []⟩, ⟨19, ⟨0, 1, 0⟩, false, []⟩, ⟨14, ⟨0, 1, 0⟩, false, []⟩, 
   ⟨19, ⟨0, 1, 1⟩, false, []⟩, ⟨17, ⟨0, 1, 0⟩, false, []⟩, ⟨13, ⟨0, 0, 1⟩, false, []⟩, 
   ⟨17, ⟨0, 0, 0⟩, false, []⟩, ⟨16, ⟨1, 0, 0⟩, false, []⟩, ⟨9, ⟨2, 0, 0⟩, true, [14, 18]⟩, 
   ⟨15, ⟨1, 0, 1⟩, false, []⟩, ⟨15, ⟨1, 0, 0⟩, false, []⟩, ⟨18, ⟨0, 1, 1⟩, false, []⟩, 
   ⟨18, ⟨0, 0, 1⟩, false, []⟩, ⟨19, ⟨0, 0, 1⟩, false, []⟩, ⟨17, ⟨1, 0, 0⟩, false, []⟩, 
   ⟨19, ⟨0, 0, 0⟩, false, []⟩, ⟨18, ⟨0, 1, 0⟩, false, []⟩, ⟨18, ⟨1, 0, 1⟩, false, []⟩, 
   ⟨19, ⟨2, 0, 0⟩, true, []⟩, ⟨19, ⟨1, 0, 0⟩, false, []⟩, ⟨18, ⟨0, 0, 0⟩, false, []⟩, 
   ⟨19, ⟨1, 0, 1⟩, false, []⟩, ⟨18, ⟨1, 0, 0⟩, false, []⟩]

/-- How many base cells there are. -/
def baseCellCount : Nat := 122

/-- A base cell by its number. -/
def baseCell (n : Nat) : BaseCell := baseCells.getD n default

/-- The places of a face that the table below covers, in its order. -/
def places : List Coord :=
  [⟨0, 0, 0⟩, ⟨0, 0, 1⟩, ⟨0, 0, 2⟩, ⟨0, 1, 0⟩, ⟨0, 1, 1⟩, ⟨0, 1, 2⟩, ⟨0, 2, 0⟩, ⟨0, 2, 1⟩,
   ⟨1, 0, 0⟩, ⟨1, 0, 1⟩, ⟨1, 0, 2⟩, ⟨1, 1, 0⟩, ⟨1, 2, 0⟩, ⟨2, 0, 0⟩, ⟨2, 0, 1⟩, ⟨2, 1, 0⟩]

/-- For each face, base cell and sixths of a turn at each of `places`. -/
def facePlaces : List (List (Nat × Nat)) :=
  [
   [(16, 0), (18, 0), (24, 0), (33, 0), (30, 0), (32, 3), (49, 1), (48, 3), (8, 0), (5, 5), (10, 5), (22, 0), (41, 1), (4, 0), (0, 5), (15, 1)],
   [(2, 0), (6, 0), (14, 0), (10, 0), (11, 0), (17, 3), (24, 1), (23, 3), (0, 0), (1, 5), (9, 5), (5, 0), (18, 1), (4, 1), (3, 5), (8, 1)],
   [(7, 0), (21, 0), (38, 0), (9, 0), (19, 0), (34, 3), (14, 1), (20, 3), (3, 0), (13, 5), (29, 5), (1, 0), (6, 1), (4, 2), (12, 5), (0, 1)],
   [(26, 0), (42, 0), (58, 0), (29, 0), (43, 0), (62, 3), (38, 1), (47, 3), (12, 0), (28, 5), (44, 5), (13, 0), (21, 1), (4, 3), (15, 5), (3, 1)],
   [(31, 0), (41, 0), (49, 0), (44, 0), (53, 0), (61, 3), (58, 1), (65, 3), (15, 0), (22, 5), (33, 5), (28, 0), (42, 1), (4, 4), (8, 5), (12, 1)],
   [(50, 0), (48, 0), (49, 3), (32, 0), (30, 3), (33, 3), (24, 3), (18, 3), (70, 0), (67, 0), (66, 3), (52, 3), (37, 3), (83, 0), (87, 3), (74, 3)],
   [(25, 0), (23, 0), (24, 3), (17, 0), (11, 3), (10, 3), (14, 3), (6, 3), (45, 0), (39, 0), (37, 3), (35, 3), (27, 3), (63, 0), (59, 3), (56, 3)],
   [(36, 0), (20, 0), (14, 3), (34, 0), (19, 3), (9, 3), (38, 3), (21, 3), (55, 0), (40, 0), (27, 3), (54, 3), (51, 3), (72, 0), (60, 3), (73, 3)],
   [(64, 0), (47, 0), (38, 3), (62, 0), (43, 3), (29, 3), (58, 3), (42, 3), (84, 0), (69, 0), (51, 3), (82, 3), (76, 3), (97, 0), (89, 3), (98, 3)],
   [(75, 0), (65, 0), (58, 3), (61, 0), (53, 3), (44, 3), (49, 3), (41, 3), (94, 0), (86, 0), (76, 3), (81, 3), (66, 3), (107, 0), (104, 3), (101, 3)],
   [(57, 0), (59, 0), (63, 3), (74, 0), (78, 3), (79, 3), (83, 3), (92, 3), (37, 0), (39, 3), (45, 3), (52, 0), (70, 3), (24, 0), (23, 3), (32, 3)],
   [(46, 0), (60, 0), (72, 3), (56, 0), (68, 3), (80, 3), (63, 3), (77, 3), (27, 0), (40, 3), (55, 3), (35, 0), (45, 3), (14, 0), (20, 3), (17, 3)],
   [(71, 0), (89, 0), (97, 3), (73, 0), (91, 3), (103, 3), (72, 3), (88, 3), (51, 0), (69, 3), (84, 3), (54, 0), (55, 3), (38, 0), (47, 3), (34, 3)],
   [(96, 0), (104, 0), (107, 3), (98, 0), (110, 3), (115, 3), (97, 3), (111, 3), (76, 0), (86, 3), (94, 3), (82, 0), (84, 3), (58, 0), (65, 3), (62, 3)],
   [(85, 0), (87, 0), (83, 3), (101, 0), (102, 3), (100, 3), (107, 3), (112, 3), (66, 0), (67, 3), (70, 3), (81, 0), (94, 3), (49, 0), (48, 3), (61, 3)],
   [(95, 0), (92, 0), (83, 0), (79, 0), (78, 0), (74, 3), (63, 1), (59, 3), (109, 0), (108, 0), (100, 5), (93, 1), (77, 1), (117, 4), (118, 5), (106, 1)],
   [(90, 0), (77, 0), (63, 0), (80, 0), (68, 0), (56, 3), (72, 1), (60, 3), (106, 0), (93, 0), (79, 5), (99, 1), (88, 1), (117, 3), (109, 5), (113, 1)],
   [(105, 0), (88, 0), (72, 0), (103, 0), (91, 0), (73, 3), (97, 1), (89, 3), (113, 0), (99, 0), (80, 5), (116, 1), (111, 1), (117, 2), (106, 5), (121, 1)],
   [(119, 0), (111, 0), (97, 0), (115, 0), (110, 0), (98, 3), (107, 1), (104, 3), (121, 0), (116, 0), (103, 5), (120, 1), (112, 1), (117, 1), (113, 5), (118, 1)],
   [(114, 0), (112, 0), (107, 0), (100, 0), (102, 0), (101, 3), (83, 1), (87, 3), (118, 0), (120, 0), (115, 5), (108, 1), (92, 1), (117, 0), (121, 5), (109, 1)]]

/-- The base cell at a place of a face, and the sixths of a turn to its home face. -/
def lookup (face : Nat) (c : Coord) : Nat × Nat :=
  (((places.zip (facePlaces.getD face [])).lookup c).getD (0, 0))

end VesselWatch.HexGrid

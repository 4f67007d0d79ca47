import StageParity.Layout.Basic

/-!
# Projects

A compiler project: where it is and how it is laid out.
-/

namespace StageParity

structure Project where
  root : Path
  layout : Layout

namespace Project

def binary (p : Project) : Path := Layout.resolve p.root p.layout.builtBinary

def source (p : Project) : Path := Layout.resolve p.root p.layout.selfHostedSource

def sample (p : Project) : Path := Layout.resolve p.root p.layout.sampleProgram

end Project

end StageParity

import ShaderSketch.Number.Binary

/-!
# The fixed parts of a picture

## Main definitions

* `Shader.vertexSource`, `Shader.initialSource` : the fixed sources
* `Shader.position`, `Shader.resolution`, `Shader.time` : the names that sources are fed by
* `Shader.corners`, `Shader.cornerBytes` : the rectangle that is drawn
-/

namespace ShaderSketch.Shader

/-- The vertex stage, which passes the rectangle through. -/
def vertexSource : String :=
  "attribute vec4 position;\n\nvoid main() \x7b\n    gl_Position = position;\n\x7d\n"

/-- The attribute that the rectangle is fed to. -/
def position : String := "position"

/-- The uniform for the size of the surface in pixels. -/
def resolution : String := "u_resolution"

/-- The uniform for the seconds since the canvas was made. -/
def time : String := "u_time"

/-- The moving gradient that is shown before anything else. -/
def initialSource : String :=
  "#ifdef GL_ES\nprecision mediump float;\n#endif\n\n"
    ++ "uniform vec2 u_resolution;\nuniform float u_time;\n\n"
    ++ "void main() \x7b\n"
    ++ "    vec2 uv = gl_FragCoord.xy / u_resolution.xy;\n"
    ++ "    gl_FragColor = vec4(uv.x, uv.y, 0.5 + 0.5 * sin(u_time), 1.0);\n\x7d\n"

/-- The coordinate of the right and upper edges. -/
def edge : Binary := Binary.ofNat .single 1

/-- The corners of the rectangle, in the order of a strip. -/
def corners : List (Binary × Binary) :=
  [(edge.neg, edge.neg), (edge, edge.neg), (edge.neg, edge), (edge, edge)]

/-- The number of coordinates of a corner. -/
def cornerSize : Int := 2

/-- The bytes of the corners. -/
def cornerBytes : List UInt8 :=
  corners.flatMap fun (x, y) => Binary.littleEndian x.bits32 ++ Binary.littleEndian y.bits32

end ShaderSketch.Shader

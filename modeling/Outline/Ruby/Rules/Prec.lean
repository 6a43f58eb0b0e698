/-! How strongly the operators of Ruby bind, from the loosest to the tightest. -/
namespace Outline.Ruby.Prec

def not : Int := 5
def defined : Int := 10
def assign : Int := 15
def rescue : Int := 16
def conditional : Int := 20
def range : Int := 25
def boolOr : Int := 30
def boolAnd : Int := 35
def relational : Int := 40
def comparison : Int := 45
def bitOr : Int := 50
def bitAnd : Int := 55
def shift : Int := 60
def additive : Int := 65
def multiplicative : Int := 70
def unaryMinus : Int := 75
def exponential : Int := 80
def complement : Int := 85

end Outline.Ruby.Prec
